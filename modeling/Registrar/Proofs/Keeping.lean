import Registrar.Conditions

/- Keeping the result of a pass in the conditions of a snapshot. The promise fixes every field of what
   comes of it, so that the snapshot is the only one that fulfils it, and one that fulfils it already is
   left as it is. That keeping a result twice is keeping it once follows from the promise alone. -/
namespace Registrar

def Failure.Listed (f : Failure) (settings : Settings) : Prop :=
  ∃ e, f = .remote e ∧ e.code ∈ settings.terminalCodes

theorem Failure.isTerminal_iff {f : Failure} {settings : Settings} :
    f.isTerminal settings = true ↔ f.Listed settings := by
  cases f with
  | remote e => simp [isTerminal, code?, Listed]
  | _ => simp [isTerminal, code?, Listed]

namespace Snapshot

/-- What is promised of `u` once the result of a pass is kept in `r`. -/
structure Keeps (r : Snapshot) (failure : Option Failure) (settings : Settings) (u : Snapshot) :
    Prop where
  spec : u.spec = r.spec
  rest : u.status = { r.status with
    synced := u.status.synced
    terminal := u.status.terminal
    terminalSpec := u.status.terminalSpec }
  terminal_iff : u.status.terminal.isSome = true ↔ ∃ f, failure = some f ∧ f.Listed settings
  recorded : u.status.terminalSpec.isSome = u.status.terminal.isSome
  listed : ∀ f, failure = some f → f.Listed settings →
    u.status.terminal = some ⟨true, some f.message⟩ ∧
      u.status.synced = some ⟨false, some f.message⟩ ∧ u.status.terminalSpec = some r.spec
  unlisted : ∀ f, failure = some f → ¬ f.Listed settings →
    u.status.synced = some ⟨false, r.status.synced.bind Condition.message⟩
  passed : failure = none → u.status.synced = r.status.synced

section
variable {r u v : Snapshot} {failure : Option Failure} {settings : Settings}

theorem afterPass_keeps (r : Snapshot) (failure : Option Failure) (settings : Settings) :
    r.Keeps failure settings (r.afterPass failure settings) := by
  cases failure with
  | none => constructor <;> simp [afterPass, withoutTerminal]
  | some f =>
    rw [afterPass]
    split <;> rename_i terminal
    · have listed : f.Listed settings := Failure.isTerminal_iff.mp terminal
      constructor <;> simp [listed, Condition.unmet]
    · have unlisted : ¬ f.Listed settings := mt Failure.isTerminal_iff.mpr terminal
      constructor <;> simp [unlisted, withoutTerminal, withSynced]

namespace Keeps

theorem cleared (kept : r.Keeps failure settings u)
    (fine : ¬ ∃ f, failure = some f ∧ f.Listed settings) :
    u.status.terminal = none ∧ u.status.terminalSpec = none := by
  have terminal : u.status.terminal = none := by
    simpa using mt kept.terminal_iff.mp fine
  have recorded := kept.recorded
  rw [terminal] at recorded
  exact ⟨terminal, by simpa using recorded⟩

theorem conditions_eq (kept : r.Keeps failure settings u) (other : r.Keeps failure settings v) :
    u.status.synced = v.status.synced ∧ u.status.terminal = v.status.terminal ∧
      u.status.terminalSpec = v.status.terminalSpec := by
  by_cases given : ∃ f, failure = some f ∧ f.Listed settings
  · obtain ⟨f, failed, listed⟩ := given
    obtain ⟨terminal, synced, spec⟩ := kept.listed f failed listed
    obtain ⟨terminal', synced', spec'⟩ := other.listed f failed listed
    exact ⟨synced.trans synced'.symm, terminal.trans terminal'.symm, spec.trans spec'.symm⟩
  · obtain ⟨terminal, spec⟩ := kept.cleared given
    obtain ⟨terminal', spec'⟩ := other.cleared given
    refine ⟨?_, terminal.trans terminal'.symm, spec.trans spec'.symm⟩
    cases failure with
    | none => exact (kept.passed rfl).trans (other.passed rfl).symm
    | some f =>
      have unlisted : ¬ f.Listed settings := fun listed => given ⟨f, rfl, listed⟩
      exact (kept.unlisted f rfl unlisted).trans (other.unlisted f rfl unlisted).symm

theorem unique (kept : r.Keeps failure settings u) (other : r.Keeps failure settings v) : u = v := by
  obtain ⟨synced, terminal, spec⟩ := kept.conditions_eq other
  have status : u.status = v.status := by
    rw [kept.rest, other.rest, synced, terminal, spec]
  cases u
  cases v
  cases status
  cases kept.spec.trans other.spec.symm
  rfl

/-- What came of keeping a result has nothing to learn from it: a failure that is not for good takes
    over the message that it left there before. -/
theorem again (kept : r.Keeps failure settings u) : u.Keeps failure settings u where
  spec := rfl
  rest := rfl
  terminal_iff := kept.terminal_iff
  recorded := kept.recorded
  listed f failed listed := by
    rw [kept.spec]
    exact kept.listed f failed listed
  unlisted f failed unlisted := by
    rw [kept.unlisted f failed unlisted]
    rfl
  passed _ := rfl

end Keeps

theorem updated?_getD (r : Snapshot) (failure : Option Failure) (settings : Settings) :
    (r.updated? failure settings).getD r = r.afterPass failure settings := by
  simp only [updated?]
  split <;> rename_i same
  · exact same.symm
  · rfl

theorem updated?_eq_none_iff :
    r.updated? failure settings = none ↔ r.Keeps failure settings r := by
  have kept := r.afterPass_keeps failure settings
  simp only [updated?]
  split <;> rename_i same
  · rw [same] at kept
    exact iff_of_true rfl kept
  · exact iff_of_false (Option.some_ne_none _) fun before => same (kept.unique before)

end

end Snapshot

/-- A snapshot that a result was kept in is the only one that fulfils the promise, and keeping the
    result in it again changes nothing. There is nothing to store exactly if the promise is fulfilled
    before; else what is stored differs. -/
theorem result_is_kept_once (r : Snapshot) (failure : Option Failure) (settings : Settings) :
    let u := (r.updated? failure settings).getD r
    r.Keeps failure settings u ∧ (∀ v, r.Keeps failure settings v → v = u) ∧
      (r.updated? failure settings = none ↔ r.Keeps failure settings r) ∧
      (∀ v, r.updated? failure settings = some v → v ≠ r) ∧
      u.updated? failure settings = none := by
  intro u
  have kept : r.Keeps failure settings u := by
    rw [show u = r.afterPass failure settings from r.updated?_getD failure settings]
    exact r.afterPass_keeps failure settings
  refine ⟨kept, fun v other => other.unique kept, Snapshot.updated?_eq_none_iff, ?_,
    Snapshot.updated?_eq_none_iff.mpr kept.again⟩
  intro v updated same
  subst same
  simp only [Snapshot.updated?] at updated
  split at updated <;> rename_i unchanged
  · cases updated
  · exact unchanged (Option.some.inj updated)

end Registrar
