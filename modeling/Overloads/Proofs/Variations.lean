import Overloads.Json.Decoding
import Mathlib.Data.List.Perm.Basic

/-! Ways to write a JSON value differently. Members of an object may change places, members with
unknown names may be added, and a field that holds its default may be left out. A reader that knows
the shape of a value does not notice. -/

namespace Overloads.Proofs.Variations
open Json

/-- What a reader knows of a value. The fields of a record may have a default, and a tag tells which
fields the record has that it stands in. Strings, numbers and the like are leaves. -/
inductive Shape
  | leaf
  | list (item : Shape)
  | record (fields : List (String × Shape × Option Json))
  | tagged (tag : String) (variants : List (String × List (String × Shape × Option Json)))

abbrev Fields := List (String × Shape × Option Json)

mutual

/-- The second value is a variation of the first. -/
inductive Varies : Shape → Json → Json → Prop
  | same {shape : Shape} {v : Json} : Varies shape v v
  | list {item : Shape} {us vs : List Json} (items : ItemsVary item us vs) :
      Varies (.list item) (.array us) (.array vs)
  | record {fields : Fields} {members kept added result : Record}
      (varied : MembersVary fields members kept)
      (unknown : ∀ m ∈ added, fields.lookup m.1 = none) (order : result.Perm (kept ++ added)) :
      Varies (.record fields) (.object members) (.object result)
  | tagged {tag name : String} {variants : List (String × Fields)} {fields : Fields}
      {members : Record} {v : Json} (chosen : members.lookup tag = some (.string name))
      (variant : variants.lookup name = some fields)
      (varied : Varies (.record fields) (.object members) v) :
      Varies (.tagged tag variants) (.object members) v

inductive ItemsVary : Shape → List Json → List Json → Prop
  | nil {item : Shape} : ItemsVary item [] []
  | cons {item : Shape} {u v : Json} {us vs : List Json} (first : Varies item u v)
      (rest : ItemsVary item us vs) : ItemsVary item (u :: us) (v :: vs)

/-- A member is kept, its value varied, or dropped if it holds the default. -/
inductive MembersVary : Fields → Record → Record → Prop
  | nil {fields : Fields} : MembersVary fields [] []
  | kept {fields : Fields} {name : String} {shape : Shape} {default : Option Json} {u v : Json}
      {members others : Record} (known : fields.lookup name = some (shape, default))
      (varied : Varies shape u v) (rest : MembersVary fields members others) :
      MembersVary fields ((name, u) :: members) ((name, v) :: others)
  | dropped {fields : Fields} {name : String} {shape : Shape} {u : Json} {members others : Record}
      (known : fields.lookup name = some (shape, some u))
      (rest : MembersVary fields members others) :
      MembersVary fields ((name, u) :: members) others

end

theorem ne_null {shape : Shape} {u v : Json} (varied : Varies shape u v) (solid : u ≠ .null) :
    v ≠ .null := by
  cases varied with
  | same => exact solid
  | list items => exact Json.noConfusion
  | record varied unknown order => exact Json.noConfusion
  | tagged chosen variant varied =>
    cases varied with
    | same => exact solid
    | record varied unknown order => exact Json.noConfusion

theorem lookup_eq (r : Record) (name : String) :
    r.lookup name = (r.filter fun m => m.1 == name).head?.map Prod.snd := by
  induction r with
  | nil => rfl
  | cons m r ih =>
    obtain ⟨other, v⟩ := m
    rw [List.lookup_cons, List.filter_cons, BEq.comm]
    cases other == name with
    | true => rfl
    | false => exact ih

theorem readable_of_lookup {r : Record} (readable : membersReadable r = true) {name : String}
    {v : Json} (found : r.lookup name = some v) : v.isReadable = true := by
  induction r with
  | nil => cases found
  | cons m r ih =>
    obtain ⟨other, u⟩ := m
    rw [membersReadable_cons, Bool.and_eq_true] at readable
    rw [List.lookup_cons] at found
    split at found
    · cases found
      exact readable.1
    · exact ih readable.2 found

theorem readable_filter {r : Record} (readable : membersReadable r = true)
    (keep : String × Json → Bool) : membersReadable (r.filter keep) = true := by
  induction r with
  | nil => rfl
  | cons m r ih =>
    obtain ⟨name, v⟩ := m
    rw [membersReadable_cons, Bool.and_eq_true] at readable
    rw [List.filter_cons]
    split
    · rw [membersReadable_cons, Bool.and_eq_true]
      exact ⟨readable.1, ih readable.2⟩
    · exact ih readable.2

/-- What a reader finds in place of a field that was written. -/
inductive FieldVaries (shape : Shape) (default : Option Json) : Option Json → Option Json → Prop
  | absent : FieldVaries shape default none none
  | kept {u v : Json} (varied : Varies shape u v) : FieldVaries shape default (some u) (some v)
  | dropped {u : Json} (same : default = some u) : FieldVaries shape default (some u) none

theorem fieldVaries_of_members {fields : Fields} {members kept : Record}
    (varied : MembersVary fields members kept) (distinct : (members.map Prod.fst).Nodup)
    {name : String} {shape : Shape} {default : Option Json}
    (known : fields.lookup name = some (shape, default)) :
    FieldVaries shape default (members.lookup name) (kept.lookup name) := by
  induction members generalizing kept with
  | nil =>
    cases varied
    exact .absent
  | cons m members ih =>
    obtain ⟨other, u⟩ := m
    rw [List.map_cons, List.nodup_cons] at distinct
    obtain ⟨alone, distinct⟩ := distinct
    by_cases here : name = other
    · subst here
      rw [List.lookup_cons_self]
      cases varied with
      | kept present varied rest =>
        obtain ⟨rfl, rfl⟩ := Prod.mk.inj (Option.some.inj (known.symm.trans present))
        rw [List.lookup_cons_self]
        exact .kept varied
      | dropped present rest =>
        obtain ⟨rfl, rfl⟩ := Prod.mk.inj (Option.some.inj (known.symm.trans present))
        -- No later member has the name, so nothing is left where this one was dropped.
        have later := ih rest distinct
        have gone : members.lookup name = none := by
          refine List.lookup_eq_none_iff.mpr fun m member => bne_iff_ne.mpr ?_
          rintro rfl
          exact alone (List.mem_map.mpr ⟨m, member, rfl⟩)
        rw [gone] at later
        cases absent : kept.lookup name with
        | none => exact .dropped rfl
        | some v =>
          rw [absent] at later
          cases later
    · have different : (name == other) = false := beq_eq_false_iff_ne.mpr here
      cases varied with
      | kept present varied rest =>
        rw [List.lookup_cons, List.lookup_cons, different]
        exact ih rest distinct
      | dropped present rest =>
        rw [List.lookup_cons, different]
        exact ih rest distinct

theorem names_sublist {fields : Fields} {members kept : Record}
    (varied : MembersVary fields members kept) :
    (kept.map Prod.fst).Sublist (members.map Prod.fst) := by
  induction members generalizing kept with
  | nil =>
    cases varied
    exact List.Sublist.refl []
  | cons m members ih =>
    cases varied with
    | kept known varied rest => exact (ih rest).cons_cons _
    | dropped known rest => exact (ih rest).cons _

theorem filter_length {r : Record} (distinct : (r.map Prod.fst).Nodup) (name : String) :
    (r.filter fun m => m.1 == name).length ≤ 1 := by
  have names : (r.filter fun m => m.1 == name).map Prod.fst =
      List.replicate (r.filter fun m => m.1 == name).length name := by
    refine List.eq_replicate_iff.mpr ⟨List.length_map _, fun other member => ?_⟩
    obtain ⟨m, inside, rfl⟩ := List.mem_map.mp member
    exact eq_of_beq (List.mem_filter.mp inside).2
  have kept : ((r.filter fun m => m.1 == name).map Prod.fst).Nodup :=
    distinct.sublist (List.filter_sublist.map Prod.fst)
  rw [names, List.nodup_replicate] at kept
  exact kept

theorem perm_eq_of_length {first second : List α} (perm : first.Perm second)
    (short : second.length ≤ 1) : first = second := by
  match second, short with
  | [], _ => exact List.perm_nil.mp perm
  | [a], _ => exact List.perm_singleton.mp perm

/-- Wherever the member with a known name ended up, it is still the only one. -/
theorem filter_result {fields : Fields} {kept added result : Record}
    (unknown : ∀ m ∈ added, fields.lookup m.1 = none) (order : result.Perm (kept ++ added))
    (distinct : (kept.map Prod.fst).Nodup) {name : String} (known : fields.lookup name ≠ none) :
    (result.filter fun m => m.1 == name) = kept.filter fun m => m.1 == name := by
  have nothing : (added.filter fun m => m.1 == name) = [] := by
    refine List.filter_eq_nil_iff.mpr fun m member same => ?_
    rw [← eq_of_beq same] at known
    exact known (unknown m member)
  have perm := order.filter fun m => m.1 == name
  rw [List.filter_append, nothing, List.append_nil] at perm
  exact perm_eq_of_length perm (filter_length distinct name)

/-- What a reader needs to know of a record that was varied. -/
structure Reading (fields : Fields) (members result : Record) : Prop where
  once : ∀ name, fields.lookup name ≠ none → occursOnce name result = true
  varies : ∀ {name shape default}, fields.lookup name = some (shape, default) →
    FieldVaries shape default (members.lookup name) (result.lookup name)
  readable : membersReadable result = true

theorem reading_same (fields : Fields) {members : Record} (distinct : (members.map Prod.fst).Nodup)
    (readable : membersReadable members = true) : Reading fields members members := by
  refine ⟨?_, ?_, readable⟩
  · intro name _
    rw [occursOnce, decide_eq_true_eq]
    exact filter_length distinct name
  · intro name shape default _
    cases members.lookup name with
    | none => exact .absent
    | some u => exact .kept .same

theorem reading {fields : Fields} {members : Record} {v : Json}
    (varied : Varies (.record fields) (.object members) v)
    (distinct : (members.map Prod.fst).Nodup) (readable : v.isReadable = true) :
    ∃ result, v = .object result ∧ Reading fields members result := by
  cases varied with
  | same => exact ⟨members, rfl, reading_same fields distinct readable⟩
  | @record _ _ kept added result varied unknown order =>
    have keptDistinct := distinct.sublist (names_sublist varied)
    refine ⟨result, rfl, ⟨?_, ?_, readable⟩⟩
    · intro name known
      rw [occursOnce, filter_result unknown order keptDistinct known, decide_eq_true_eq]
      exact filter_length keptDistinct name
    · intro name shape default known
      rw [lookup_eq result, filter_result unknown order keptDistinct (by simp [known]), ← lookup_eq]
      exact fieldVaries_of_members varied distinct known

/-- The decoder reads every variation of the value as the same thing, wherever it comes from. -/
def ReadsAs (shape : Shape) (decode : Decoder α) (u : Json) (x : α) : Prop :=
  ∀ v, Varies shape u v → v.isReadable = true → ∀ origin, decode origin v = some x

theorem readsAs_leaf {decode : Decoder α} {u : Json} {x : α}
    (reads : ∀ origin, decode origin u = some x) : ReadsAs .leaf decode u x := by
  intro v varied readable origin
  cases varied
  exact reads origin

theorem items_same (item : Shape) (us : List Json) : ItemsVary item us us := by
  induction us with
  | nil => exact .nil
  | cons u us ih => exact .cons .same ih

theorem readsAs_list {item : Shape} {decode : Decoder α} {encode : α → Json} {xs : List α}
    (reads : ∀ x ∈ xs, ReadsAs item decode (encode x) x) :
    ReadsAs (.list item) (decodeList decode) (.array (xs.map encode)) xs := by
  have all : ∀ vs origin, ItemsVary item (xs.map encode) vs → areReadable vs = true →
      vs.mapM (decode origin) = some xs := by
    intro vs origin items readable
    induction xs generalizing vs with
    | nil =>
      cases items
      rfl
    | cons x xs ih =>
      cases items with
      | @cons _ _ v _ vs first rest =>
        rw [areReadable_cons, Bool.and_eq_true] at readable
        have read := reads x List.mem_cons_self v first readable.1 origin
        have more := ih (fun y member => reads y (List.mem_cons_of_mem x member)) vs rest readable.2
        rw [List.mapM_cons, read, more]
        rfl
  intro v varied readable origin
  cases varied with
  | same => exact all _ origin (items_same item _) readable
  | list items => exact all _ origin items readable

theorem readsAs_some {shape : Shape} {decode : Decoder α} {u : Json} {x : α} (solid : u ≠ .null)
    (reads : ReadsAs shape decode u x) : ReadsAs shape (decodeOption decode) u (some x) := by
  intro v varied readable origin
  have value := ne_null varied solid
  simp only [decodeOption, reads v varied readable origin, Option.map_some]

def contentFields (tag content : String) (shape : Shape) : Fields :=
  [(tag, .leaf, none), (content, shape, none)]

namespace Reading

variable {fields : Fields} {members result : Record} {shape : Shape} {name : String}
  {decode : Decoder α}

theorem record? (r : Reading fields members result) :
    Json.record? (fields.map Prod.fst) (.object result) = some result := by
  have all : (fields.map Prod.fst).all (occursOnce · result) = true := by
    refine List.all_eq_true.mpr fun name member => r.once name fun absent => ?_
    obtain ⟨field, inside, rfl⟩ := List.mem_map.mp member
    exact bne_iff_ne.mp (List.lookup_eq_none_iff.mp absent field inside) rfl
  rw [Json.record?, if_pos all]

/-- A field without default is still there. -/
theorem present (r : Reading fields members result) (name : String)
    (known : fields.lookup name = some (shape, none)) {u : Json}
    (written : members.lookup name = some u) :
    ∃ v, result.lookup name = some v ∧ Varies shape u v ∧ v.isReadable = true := by
  have varies := r.varies known
  cases found : result.lookup name with
  | none =>
    rw [written, found] at varies
    cases varies with
    | dropped same => cases same
  | some v =>
    rw [written, found] at varies
    cases varies with
    | kept varied => exact ⟨v, rfl, varied, readable_of_lookup r.readable found⟩

theorem required (r : Reading fields members result) (name : String)
    (known : fields.lookup name = some (shape, none)) {u : Json}
    (written : members.lookup name = some u) {x : α} (reads : ReadsAs shape decode u x)
    (origin : Origin) : Record.required result name decode origin = some x := by
  obtain ⟨v, found, varied, readable⟩ := r.present name known written
  rw [Record.required, found]
  exact reads v varied readable origin

/-- A field that is left out was written as its default, which reads as the value taken for it. -/
theorem defaulted (r : Reading fields members result) (name : String) (standard : α)
    {default : Json} (known : fields.lookup name = some (shape, some default)) {u : Json}
    (written : members.lookup name = some u) {x : α}
    (plain : default.isReadable = true ∧ decode .direct default = some standard)
    (reads : ReadsAs shape decode u x) (origin : Origin) :
    Record.defaulted result name standard decode origin = some x := by
  have varies := r.varies known
  rw [Record.defaulted]
  cases found : result.lookup name with
  | none =>
    rw [written, found] at varies
    cases varies with
    | dropped same =>
      cases same
      have read := reads default .same plain.1 .direct
      exact plain.2.symm.trans read
  | some v =>
    rw [written, found] at varies
    cases varies with
    | kept varied => exact reads v varied (readable_of_lookup r.readable found) origin

theorem leaf (r : Reading fields members result) (name : String)
    (known : fields.lookup name = some (.leaf, none)) {u : Json}
    (written : members.lookup name = some u) : result.lookup name = some u := by
  obtain ⟨v, found, varied, _⟩ := r.present name known written
  cases varied
  exact found

theorem unwritten (r : Reading fields members result) (name : String) {default : Option Json}
    (known : fields.lookup name = some (shape, default)) (absent : members.lookup name = none) :
    result.lookup name = none := by
  have varies := r.varies known
  rw [absent] at varies
  cases found : result.lookup name with
  | none => rfl
  | some v =>
    rw [found] at varies
    cases varies

/-- An option may be written only if there is a value. -/
theorem optional (r : Reading fields members result) (name : String) (x : Option α)
    (known : fields.lookup name = some (shape, none)) {encode : α → Json}
    (written : members.lookup name = x.map encode) (solid : ∀ y, encode y ≠ .null)
    (reads : ∀ y, x = some y → ReadsAs shape decode (encode y) y) (origin : Origin) :
    Record.optional result name decode origin = some x := by
  rw [Record.optional, Record.defaulted]
  cases x with
  | none => rw [r.unwritten name known written]
  | some y =>
    obtain ⟨v, found, varied, readable⟩ := r.present name known written
    have read := readsAs_some (solid y) (reads y rfl) v varied readable origin
    simp only [found, read]

/-- An option may also be written as null if there is no value. -/
theorem nullable (r : Reading fields members result) (name : String) (x : Option α)
    (known : fields.lookup name = some (shape, none)) {encode : α → Json}
    (written : members.lookup name = some (.ofOption encode x)) (solid : ∀ y, encode y ≠ .null)
    (reads : ∀ y, x = some y → ReadsAs shape decode (encode y) y) (origin : Origin) :
    Record.optional result name decode origin = some x := by
  obtain ⟨v, found, varied, readable⟩ := r.present name known written
  rw [Record.optional, Record.defaulted, found]
  cases x with
  | none =>
    cases varied
    rfl
  | some y => exact readsAs_some (solid y) (reads y rfl) v varied readable origin

/-- The tag and the content of a variant are found in either order. -/
theorem tagged? {tag content variant : String}
    (r : Reading (contentFields tag content shape) members result)
    (different : content ≠ tag) (written : members.lookup tag = some (.string variant))
    (variants : List String) (origin : Origin) :
    ∃ source, Json.tagged? tag content variants origin (.object result) =
      some ⟨variant, result.lookup content, source⟩ := by
  have other : (content == tag) = false := beq_eq_false_iff_ne.mpr different
  have tagOnce := r.once tag (by simp [contentFields])
  have contentOnce := r.once content (by simp [contentFields, List.lookup_cons, other])
  have chosen := r.leaf tag List.lookup_cons_self written
  -- Content in front of the tag is held until the tag is known.
  have readable : (result.lookup content).all isReadable = true := by
    cases found : result.lookup content with
    | none => rfl
    | some v => exact readable_of_lookup r.readable found
  simp only [Json.tagged?, tagOnce, contentOnce, readable, chosen, Bool.and_self, Bool.not_true,
    Bool.and_false, Bool.false_eq_true, if_true, if_false, Option.bind_some]
  exact ⟨_, rfl⟩

/-- Without its tag, a record still has all other fields. -/
theorem untagged {tag : String} (r : Reading ((tag, shape, none) :: fields) members result)
    (other : fields.lookup tag = none) :
    Reading fields members (result.filter fun m => m.1 != tag) := by
  have same : ∀ {name}, fields.lookup name ≠ none →
      ((result.filter fun m => m.1 != tag).filter fun m => m.1 == name) =
        result.filter fun m => m.1 == name := by
    intro name known
    rw [List.filter_filter]
    refine List.filter_congr fun m _ => ?_
    cases here : m.1 == name with
    | false => rfl
    | true =>
      have different : m.1 ≠ tag := by
        rw [eq_of_beq here]
        rintro rfl
        exact known other
      rw [bne_iff_ne.mpr different]
      rfl
  have more : ∀ {name}, fields.lookup name ≠ none →
      List.lookup name ((tag, shape, none) :: fields) = fields.lookup name := by
    intro name known
    have different : (name == tag) = false := by
      refine beq_eq_false_iff_ne.mpr ?_
      rintro rfl
      exact known other
    rw [List.lookup_cons, different]
  refine ⟨?_, ?_, ?_⟩
  · intro name known
    rw [occursOnce, same known]
    exact r.once name ((more known).symm ▸ known)
  · intro name shape default known
    have present : fields.lookup name ≠ none := by rw [known]; exact Option.some_ne_none _
    rw [lookup_eq (result.filter _), same present, ← lookup_eq]
    exact r.varies ((more present).trans known)
  · exact readable_filter r.readable _

end Reading

/-- The tag of a record tells its fields. -/
theorem tagged_reading {tag variant : String} {variants : List (String × Fields)} {fields : Fields}
    {members : Record} {v : Json} (varied : Varies (.tagged tag variants) (.object members) v)
    (written : members.lookup tag = some (.string variant))
    (known : variants.lookup variant = some fields) (distinct : (members.map Prod.fst).Nodup)
    (readable : v.isReadable = true) :
    ∃ result, v = .object result ∧ Reading fields members result := by
  cases varied with
  | same => exact ⟨members, rfl, reading_same fields distinct readable⟩
  | tagged chosen found varied =>
    cases chosen.symm.trans written
    cases found.symm.trans known
    exact reading varied distinct readable

/-- A tag with the content of its variant under another key. -/
def adjacent (tag content : String) (variants : List (String × Shape)) : Shape :=
  .tagged tag (variants.map fun (name, shape) => (name, contentFields tag content shape))

theorem lookup_map (f : α → β) (items : List (String × α)) (name : String) :
    (items.map fun (name, item) => (name, f item)).lookup name = (items.lookup name).map f := by
  induction items with
  | nil => rfl
  | cons first rest ih =>
    obtain ⟨other, item⟩ := first
    rw [List.map_cons, List.lookup_cons, List.lookup_cons, ih]
    cases name == other <;> rfl

theorem adjacent_reading {tag content variant : String} {variants : List (String × Shape)}
    {shape : Shape} {members : Record} {v : Json}
    (varied : Varies (adjacent tag content variants) (.object members) v)
    (written : members.lookup tag = some (.string variant))
    (known : variants.lookup variant = some shape) (distinct : (members.map Prod.fst).Nodup)
    (readable : v.isReadable = true) :
    ∃ result, v = .object result ∧ Reading (contentFields tag content shape) members result := by
  refine tagged_reading varied written ?_ distinct readable
  rw [lookup_map, known]
  rfl

/-- A variant is read by its tag, and its content as it was written. -/
theorem adjacent_reads {tag content variant : String} {variants : List (String × Shape)}
    {shape : Shape} {u : Json} {decode : Decoder β} {inner : Decoder α} {x : α}
    (names : List String) (wrap : α → β)
    (opens : ∀ {origin v t}, Json.tagged? tag content names origin v = some t → t.name = variant →
      decode origin v = (t.read inner).map wrap)
    (different : content ≠ tag) (known : variants.lookup variant = some shape)
    (reads : ReadsAs shape inner u x) :
    ReadsAs (adjacent tag content variants) decode
      (.object [(tag, .string variant), (content, u)]) (wrap x) := by
  intro v varied readable origin
  have other : (content == tag) = false := beq_eq_false_iff_ne.mpr different
  have chosen : List.lookup tag [(tag, Json.string variant), (content, u)] =
      some (.string variant) := List.lookup_cons_self
  have written : List.lookup content [(tag, Json.string variant), (content, u)] = some u := by
    rw [List.lookup_cons, other, List.lookup_cons_self]
  have field : (contentFields tag content shape).lookup content = some (shape, none) := by
    rw [contentFields, List.lookup_cons, other, List.lookup_cons_self]
  obtain ⟨result, rfl, r⟩ :=
    adjacent_reading varied chosen known (by simpa using different.symm) readable
  obtain ⟨source, found⟩ := r.tagged? different chosen names origin
  have read := r.required content field written reads source
  rw [opens found rfl]
  exact congrArg (Option.map wrap) read

end Overloads.Proofs.Variations
