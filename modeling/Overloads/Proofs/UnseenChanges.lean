import Overloads.Lowering.Type

/-! What lowering a type looks at. Of the overloads of a method it takes the signatures, and which
of them is canonical, and of a method its name and its span. Whatever else changes leaves the
collisions, the reports and the counters alone, and shows in what is emitted only where it is
made. -/

namespace Overloads.Proofs.UnseenChanges

/-- Changes of overloads and methods that lowering a type does not see. -/
structure Unseen (f : Overload → Overload) (g : Method → Method) : Prop where
  signature : ∀ o, (f o).signature = o.signature
  canonical : ∀ o, (f o).isCanonical = o.isCanonical
  name : ∀ m, (g m).name = m.name
  span : ∀ m, (g m).span = m.span

def mapLowering (f : Overload → Overload) (l : MethodLowering) : MethodLowering :=
  { l with overloads := l.overloads.map f }

def mapAttempt (f : Overload → Overload) (g : Method → Method) (a : Attempt) : Attempt :=
  ⟨a.index, g a.method, a.outcome.map (mapLowering f)⟩

def mapMethod (f : Overload → Overload) (m : TargetMethod) : TargetMethod :=
  { m with overloads := m.overloads.map f }

/-- A lowered type with each of its overloads changed. -/
def mapType (f : Overload → Overload) (t : TargetType) : TargetType :=
  { t with methods := t.methods.map (mapMethod f) }

variable {f : Overload → Overload} {g : Method → Method}

theorem record_mapAttempt (unseen : Unseen f g) (detector : CollisionDetector) (a : Attempt) :
    (mapAttempt f g a).record detector = a.record detector := by
  obtain ⟨index, method, outcome⟩ := a
  cases outcome with
  | error e => rfl
  | ok lowering =>
    simp [mapAttempt, Attempt.record, Except.map, mapLowering, CollisionDetector.record,
      List.foldl_map, unseen.signature, unseen.canonical, unseen.span]

theorem diagnostics_mapAttempt (unseen : Unseen f g) (owner : String) (a : Attempt) :
    (mapAttempt f g a).diagnostics owner = a.diagnostics owner := by
  obtain ⟨index, method, outcome⟩ := a
  cases outcome with
  | ok lowering => rfl
  | error e => simp [mapAttempt, Attempt.diagnostics, Except.map, unseen.name, unseen.span]

theorem emitted?_mapAttempt (unseen : Unseen f g) (report : CollisionReport) (a : Attempt) :
    (mapAttempt f g a).emitted? report = (a.emitted? report).map (mapMethod f) := by
  obtain ⟨index, method, outcome⟩ := a
  cases outcome with
  | error e => rfl
  | ok lowering =>
    cases skipped : report.isSkipped index <;>
      simp [mapAttempt, Attempt.emitted?, Except.map, skipped, mapMethod, mapLowering, unseen.name]

variable {s : Setting} {t u : TypeDecl}

/-- The methods of two types are lowered alike, but for changes that are not seen. -/
structure Alike (f : Overload → Overload) (g : Method → Method) (s : Setting) (t u : TypeDecl) :
    Prop where
  name : t.name = u.name
  fields : t.fields = u.fields
  attempts : (t.attempts s).map (mapAttempt f g) = (u.attempts s).map (mapAttempt f g)

theorem Alike.collisions (alike : Alike f g s t u) (unseen : Unseen f g) :
    t.collisions s = u.collisions s := by
  have run : ∀ attempts : List Attempt, attempts.foldl Attempt.record {} =
      (attempts.map (mapAttempt f g)).foldl Attempt.record {} := by
    intro attempts
    simp only [List.foldl_map, record_mapAttempt unseen]
  rw [TypeDecl.collisions, TypeDecl.collisions, run (t.attempts s), alike.attempts, ← run,
    alike.name]

theorem Alike.diagnostics (alike : Alike f g s t u) (unseen : Unseen f g) :
    t.diagnostics s = u.diagnostics s := by
  have each : ∀ (owner : String) (attempts : List Attempt),
      attempts.flatMap (Attempt.diagnostics owner) =
        (attempts.map (mapAttempt f g)).flatMap (Attempt.diagnostics owner) := by
    intro owner attempts
    simp only [List.flatMap_map, diagnostics_mapAttempt unseen]
  rw [TypeDecl.diagnostics, TypeDecl.diagnostics, each t.name, alike.attempts, ← each, alike.name,
    alike.fields, alike.collisions unseen]

theorem Alike.emitted (alike : Alike f g s t u) (unseen : Unseen f g) :
    (t.emitted s).map (mapMethod f) = (u.emitted s).map (mapMethod f) := by
  have each : ∀ (report : CollisionReport) (attempts : List Attempt),
      (attempts.filterMap (Attempt.emitted? report)).map (mapMethod f) =
        (attempts.map (mapAttempt f g)).filterMap (Attempt.emitted? report) := by
    intro report attempts
    simp only [List.map_filterMap, List.filterMap_map, Function.comp_def,
      emitted?_mapAttempt unseen]
  simp only [TypeDecl.emitted, each, alike.attempts, alike.collisions unseen]

/-- As many overloads are emitted, and as many of them forward. -/
theorem Alike.overloads (alike : Alike f g s t u) (unseen : Unseen f g) :
    ((t.emitted s).flatMap TargetMethod.overloads).map Overload.isCanonical =
      ((u.emitted s).flatMap TargetMethod.overloads).map Overload.isCanonical := by
  have flags : ∀ emitted : List TargetMethod,
      (emitted.flatMap TargetMethod.overloads).map Overload.isCanonical =
        ((emitted.map (mapMethod f)).flatMap TargetMethod.overloads).map Overload.isCanonical := by
    intro emitted
    simp only [List.flatMap_map, List.map_flatMap, mapMethod, List.map_map, Function.comp_def,
      unseen.canonical]
  rw [flags, alike.emitted unseen, ← flags]

/-- As many methods are skipped. -/
theorem Alike.skipped (alike : Alike f g s t u) (unseen : Unseen f g) (report : CollisionReport) :
    (t.attempts s).countP (fun a => (a.emitted? report).isNone) =
      (u.attempts s).countP fun a => (a.emitted? report).isNone := by
  have each : ∀ attempts : List Attempt, attempts.countP (fun a => (a.emitted? report).isNone) =
      (attempts.map (mapAttempt f g)).countP fun a => (a.emitted? report).isNone := by
    intro attempts
    simp only [List.countP_map, Function.comp_def, emitted?_mapAttempt unseen, Option.isNone_map]
  rw [each, alike.attempts, ← each]

theorem Alike.methods (alike : Alike f g s t u) : t.methods.length = u.methods.length := by
  have attempts := congrArg List.length alike.attempts
  simpa only [List.length_map, TypeDecl.attempts, List.length_zipIdx] using attempts

theorem Alike.stats (alike : Alike f g s t u) (unseen : Unseen f g) : t.stats s = u.stats s := by
  have flags := alike.overloads unseen
  have overloads := congrArg List.length flags
  have forwarding := congrArg (List.countP (!·)) flags
  rw [List.length_map, List.length_map] at overloads
  rw [List.countP_map, List.countP_map] at forwarding
  simp only [Function.comp_def] at forwarding
  simp only [TypeDecl.stats, overloads, forwarding, alike.methods, alike.fields,
    alike.collisions unseen, alike.skipped unseen, alike.diagnostics unseen]

/-- What is emitted differs only by changes of overloads. -/
theorem Alike.decl (alike : Alike f g s t u) (unseen : Unseen f g) :
    mapType f (t.lower s).decl = mapType f (u.lower s).decl := by
  simp only [mapType, TypeDecl.lower, alike.emitted unseen, alike.name, alike.fields]

end Overloads.Proofs.UnseenChanges
