import Registrar.Conditions
import Registrar.Proofs.Ending
import Registrar.Proofs.Lifting

/- The conditions that any history of passes leaves, the results of passes being kept or not. The
   calls share no remote, no settings and no wish: all that ties them is the status handed on. -/
namespace Registrar

/-- A failure for good is recorded with what was asked for, it stands, and the repository counts as
    not synced. -/
structure Status.WellFormed (s : Status) : Prop where
  recorded : s.terminalSpec.isSome = s.terminal.isSome
  stands : ∀ c, s.terminal = some c → c.holds = true
  unsynced : ∀ c, s.terminal = some c → ∃ d, s.synced = some d ∧ d.holds = false

structure Outcome.Coherent (o : Outcome) : Prop where
  requeued : o.requeueSeconds.isSome = true ↔ o.state = .createPending
  settled : o.state = .inSync ∨ o.state = .created ∨ o.state = .converged →
    o.snapshot.status.synced = some .met ∧ o.snapshot.status.terminal = none ∧
      o.snapshot.status.terminalSpec = none
  pending : o.state = .createPending →
    (∃ message, o.snapshot.status.synced = some (.unmet message)) ∧
      o.snapshot.status.terminal = none
  failed : o.state = .terminal → o.snapshot.isTerminal = true

inductive Call : Type 1 where
  | pass {σ : Type} (remote : Remote σ) (s : σ) (limit : Option Nat) (settings : Settings)
      (desired : Snapshot) (latest : Option Snapshot)
  | keep (settings : Settings) (r : Snapshot) (failure : Option Failure)

namespace Call

def given : Call → List Snapshot
  | pass _ _ _ _ desired latest => desired :: latest.toList
  | keep _ r _ => [r]

def outcome? : Call → Option Outcome
  | pass remote s limit settings desired latest =>
    ((reconcile settings desired latest).run remote limit s).result.toOption
  | keep .. => none

def left? : Call → Option Snapshot
  | keep settings r failure => r.updated? failure settings
  | c => c.outcome?.map Outcome.snapshot

structure Sound (c : Call) : Prop where
  left : ∀ r, c.left? = some r → r.status.WellFormed
  ended : ∀ o, c.outcome? = some o → o.Coherent

end Call

/-- Each snapshot that a call is given carries one of the statuses known by then: those there are to
    begin with, and those that earlier calls left. -/
def Carried : List Status → List Call → Prop
  | _, [] => True
  | known, c :: rest =>
    (∀ r ∈ c.given, r.status ∈ known) ∧
      Carried (c.left?.toList.map Snapshot.status ++ known) rest

instance : (known : List Status) → (calls : List Call) → Decidable (Carried known calls)
  | _, [] => inferInstanceAs (Decidable True)
  | known, c :: rest =>
    have := instDecidableCarried (c.left?.toList.map Snapshot.status ++ known) rest
    inferInstanceAs (Decidable (_ ∧ _))

namespace Status.WellFormed
variable {s t : Status}

theorem of_cleared (terminal : s.terminal = none) (spec : s.terminalSpec = none) :
    s.WellFormed := by
  constructor
  · rw [terminal, spec]
    rfl
  · intro c failed
    cases terminal.symm.trans failed
  · intro c failed
    cases terminal.symm.trans failed

theorem of_same (fits : t.WellFormed) (same : s.SameConditions t) : s.WellFormed := by
  constructor
  · rw [same.terminal, same.terminalSpec]
    exact fits.recorded
  · rw [same.terminal]
    exact fits.stands
  · rw [same.terminal, same.synced]
    exact fits.unsynced

theorem cleared (fits : s.WellFormed) (fine : s.terminal.any (·.holds) = false) :
    s.terminal = none ∧ s.terminalSpec = none := by
  have terminal : s.terminal = none := by
    cases failed : s.terminal with
    | none => rfl
    | some c => simp [failed, fits.stands c failed] at fine
  have recorded := fits.recorded
  rw [terminal] at recorded
  exact ⟨terminal, by simpa using recorded⟩

end Status.WellFormed

section
variable {settings : Settings} {desired : Snapshot}

theorem afterPass_wellFormed (r : Snapshot) (failure : Option Failure) (settings : Settings) :
    (r.afterPass failure settings).status.WellFormed := by
  cases failure with
  | none => exact .of_cleared rfl rfl
  | some f =>
    rw [Snapshot.afterPass]
    split
    · constructor
      · rfl
      · intro c failed
        cases failed
        rfl
      · intro c failed
        exact ⟨_, rfl, rfl⟩
    · exact .of_cleared rfl rfl

theorem updated_wellFormed {r u : Snapshot} {failure : Option Failure}
    (updated : r.updated? failure settings = some u) : u.status.WellFormed := by
  simp only [Snapshot.updated?] at updated
  split at updated
  · cases updated
  · cases updated
    exact afterPass_wellFormed r failure settings

theorem leftAlone_sound {observed : Snapshot} (fits : observed.status.WellFormed) :
    observed.leftAlone.snapshot.status.WellFormed ∧ observed.leftAlone.Coherent := by
  cases terminal : observed.isTerminal with
  | true =>
    simp only [Snapshot.leftAlone, terminal, if_true]
    exact ⟨fits, by constructor <;> simp [terminal]⟩
  | false =>
    obtain ⟨none, unrecorded⟩ := fits.cleared terminal
    simp only [Snapshot.leftAlone, terminal]
    refine ⟨.of_cleared none unrecorded, ?_⟩
    constructor <;> simp [Snapshot.withSynced, none, unrecorded]

/-- However a pass ends well, its outcome is sound if the status of the latest snapshot was. -/
theorem Ending.sound {latest : Option Snapshot} {xs : List Exchange} {outcome : Outcome}
    (ending : Ending settings desired latest xs outcome)
    (fits : ∀ r, latest = some r → r.status.WellFormed) :
    outcome.snapshot.status.WellFormed ∧ outcome.Coherent := by
  cases ending with
  | @created _ _ c stop made =>
    obtain ⟨none, unrecorded⟩ := madeOutcome_cleared settings desired c stop
    refine ⟨.of_cleared none unrecorded, ?_⟩
    cases stop <;> constructor <;> simp [Snapshot.madeOutcome, Snapshot.withSynced,
      Snapshot.createdAs, Snapshot.withoutTerminal]
  | @blocked latest failed =>
    have terminal : latest.isTerminal = true := isTerminal_of_blocked failed
    exact ⟨fits latest rfl, by constructor <;> simp [terminal]⟩
  | @current latest observed _ seen kept =>
    exact leftAlone_sound ((fits latest rfl).of_same seen)
  | pushed seen asked =>
    refine ⟨.of_cleared rfl rfl, ?_⟩
    constructor <;> simp [Snapshot.convergedFrom, Snapshot.withSynced, Snapshot.withoutTerminal]

theorem Call.sound_of_given (c : Call) (fits : ∀ r ∈ c.given, r.status.WellFormed) : c.Sound := by
  cases c with
  | pass remote s limit settings desired latest =>
    have before : ∀ r, latest = some r → r.status.WellFormed := by
      rintro r rfl
      exact fits r (by simp [given])
    have ends : ∀ o, (pass remote s limit settings desired latest).outcome? = some o →
        o.snapshot.status.WellFormed ∧ o.Coherent := by
      intro o ended
      have course := reconciling_of_course
        (course_of_attempt remote limit (reconcile settings desired latest) s)
      cases result : ((reconcile settings desired latest).run remote limit s).result with
      | error f => simp [outcome?, result, Except.toOption] at ended
      | ok outcome =>
        obtain rfl : outcome = o := by simpa [outcome?, result, Except.toOption] using ended
        rw [result] at course
        exact (ending_of_reconciling course).sound before
    constructor
    · intro r left
      obtain ⟨o, ended, rfl⟩ := Option.map_eq_some_iff.mp left
      exact (ends o ended).1
    · intro o ended
      exact (ends o ended).2
  | keep settings r failure =>
    constructor
    · intro u updated
      exact updated_wellFormed updated
    · intro o ended
      cases ended

theorem sound_of_carried {known : List Status} {calls : List Call} (carried : Carried known calls)
    (fits : ∀ s ∈ known, s.WellFormed) : ∀ c ∈ calls, c.Sound := by
  -- The statuses known stay well formed: what a sound call leaves may join them.
  induction calls generalizing known with
  | nil => simp
  | cons c rest ih =>
    obtain ⟨given, later⟩ := carried
    have sound := c.sound_of_given fun r member => fits _ (given r member)
    refine List.forall_mem_cons.mpr ⟨sound, ih later ?_⟩
    intro s member
    rcases List.mem_append.mp member with fresh | old
    · obtain ⟨r, left, rfl⟩ := List.mem_map.mp fresh
      exact sound.left r (Option.mem_toList.mp left)
    · exact fits s old

end

/-- Each snapshot that comes out of a history has conditions that fit together, and each outcome fits
    where its pass ended, if every snapshot that goes in carries the status there is to begin with or
    one that came out before. -/
theorem history_stays_wellFormed {calls : List Call} (carried : Carried [{}] calls) :
    ∀ c ∈ calls, (∀ r, c.left? = some r → r.status.WellFormed) ∧
      ∀ o, c.outcome? = some o → o.Coherent := by
  have fresh : ∀ s ∈ [({} : Status)], s.WellFormed := by
    simpa using Status.WellFormed.of_cleared (s := {}) rfl rfl
  intro c member
  have sound := sound_of_carried carried fresh c member
  exact ⟨sound.left, sound.ended⟩

theorem given_up_and_resumed_is_wellFormed :
    let e : RemoteError := .service "LimitExceededException" "too many"
    let outage (op : Operation) : Option RemoteError := if op = .putLifecycle then some e else none
    let full : Registry := { drifted with failing := outage }
    let refused : Call := .pass Registry.remote full none strict wanted (some (.named "app"))
    let kept : Call := .keep strict wanted (some (.remote e))
    let blocked : Call := .pass Registry.remote full none strict wanted (some wanted.rejected)
    let resumed : Call := .pass Registry.remote full none strict (.named "app") (some wanted.rejected)
    Carried [{}] [refused, kept, blocked, resumed] ∧ refused.outcome? = none ∧
      (∃ r, kept.left? = some r ∧ r.isTerminal = true ∧ r.status.WellFormed) ∧
      (∃ o, blocked.outcome? = some o ∧ o.state = .terminal ∧ o.Coherent) ∧
      ∃ o, resumed.outcome? = some o ∧ o.state = .converged ∧ o.Coherent := by
  intro e outage full refused kept blocked resumed
  have carried : Carried [{}] [refused, kept, blocked, resumed] := by decide +kernel
  have sound := history_stays_wellFormed carried
  refine ⟨carried, by decide +kernel, ?_, ?_, ?_⟩
  · exact ⟨_, rfl, rfl, (sound kept (by simp)).1 _ rfl⟩
  · exact ⟨_, rfl, rfl, (sound blocked (by simp)).2 _ rfl⟩
  · exact ⟨_, rfl, rfl, (sound resumed (by simp)).2 _ rfl⟩

end Registrar
