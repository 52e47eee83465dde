import Registrar.Lookup

/- Which candidate a lookup takes, and what it takes over from it. A name that is known is never given up
   for a candidate of another name, and what was found is found again as it is. -/
namespace Registrar

namespace Snapshot

/-- The first candidate of the base's name. If the base has no name, the first of all. -/
def Picks (base : Snapshot) (candidates : List Candidate) (c : Candidate) : Prop :=
  ∃ before after, candidates = before ++ c :: after ∧
    (base.name = "" → before = []) ∧
    (base.name ≠ "" → c.name = some base.name ∧ ∀ d ∈ before, d.name ≠ some base.name)

/-- The base with what the candidate says of it: in any case what only the remote knows, of the settings
    those that are said, and the owner where it was not known. -/
structure Adopts (r base : Snapshot) (c : Candidate) (settings : Settings) : Prop where
  named : base.name ≠ "" → r.name = base.name
  nameless : base.name = "" → r.name = textOrEmpty c.name
  registryId : r.spec.registryId = base.spec.registryId
  lifecyclePolicy : r.spec.lifecyclePolicy = base.spec.lifecyclePolicy
  policy : r.spec.policy = base.spec.policy
  tags : r.spec.tags = base.spec.tags
  synced : r.status.synced = base.status.synced
  terminal : r.status.terminal = base.status.terminal
  terminalSpec : r.status.terminalSpec = base.status.terminalSpec
  createdAt : r.status.createdAt = c.createdAt
  arn : r.status.arn = c.arn
  reportedRegistry : r.status.registryId = c.registryId
  uri : r.status.uri = c.uri
  mutability : r.spec.mutability = c.mutability.or base.spec.mutability
  scanning : r.spec.scanning = c.scanning.or base.spec.scanning
  encryption : r.spec.encryption = c.encryption.or base.spec.encryption
  ownerAccount : r.status.ownerAccount = base.status.ownerAccount.or (some settings.account)
  region : r.status.region = base.status.region.or (some settings.region)

variable {base : Snapshot} {candidates : List Candidate} {c : Candidate} {settings : Settings}

theorem isMeant_nameless (nameless : base.name = "") (c : Candidate) : base.isMeant c = true := by
  simp [isMeant, nameless]

theorem isMeant_named (named : base.name ≠ "") :
    base.isMeant = fun c => decide (c.name = some base.name) := by
  funext c
  simp [isMeant, named]

theorem picks_iff : base.Picks candidates c ↔ candidates.find? base.isMeant = some c := by
  rw [List.find?_eq_some_iff_append]
  by_cases nameless : base.name = ""
  · constructor
    · rintro ⟨before, after, rfl, first, _⟩
      exact ⟨isMeant_nameless nameless c, before, after, rfl, by simp [first nameless]⟩
    · rintro ⟨_, before, after, rfl, foreign⟩
      refine ⟨before, after, rfl, fun _ => ?_, fun named => absurd nameless named⟩
      refine List.eq_nil_iff_forall_not_mem.mpr fun d member => ?_
      simpa [isMeant_nameless nameless d] using foreign d member
  · rw [isMeant_named nameless]
    simp only [decide_eq_true_eq, Bool.not_eq_true', decide_eq_false_iff_not]
    constructor
    · rintro ⟨before, after, rfl, _, own⟩
      obtain ⟨own, foreign⟩ := own nameless
      exact ⟨own, before, after, rfl, foreign⟩
    · rintro ⟨own, before, after, rfl, foreign⟩
      exact ⟨before, after, rfl, fun none => absurd none nameless, fun _ => ⟨own, foreign⟩⟩

theorem Picks.own (picks : base.Picks candidates c) (named : base.name ≠ "") :
    c.name = some base.name := by
  obtain ⟨_, _, _, _, own⟩ := picks
  exact (own named).1

end Snapshot

section
variable {base r : Snapshot} {candidates : List Candidate} {c : Candidate} {settings : Settings}

theorem picked_name (named : base.name ≠ "") (own : c.name = some base.name)
    (settings : Settings) : (base.describedBy c settings).name = base.name := by
  simp [Snapshot.describedBy, Snapshot.name, Spec.describedBy, own, nonEmptyText,
    Option.filter_some, show base.spec.name ≠ "" from named]

theorem among_empty_iff : Lookup.among base candidates settings = .empty ↔ candidates = [] := by
  unfold Lookup.among
  split
  case isTrue none => simp [none]
  case isFalse some => split <;> simp [some]

theorem among_found_iff : Lookup.among base candidates settings = .found r ↔
    ∃ c, candidates.find? base.isMeant = some c ∧ base.describedBy c settings = r := by
  unfold Lookup.among
  split
  case isTrue none => simp [none]
  case isFalse => cases candidates.find? base.isMeant <;> simp

theorem among_noMatch_iff {n : Nat} : Lookup.among base candidates settings = .noMatch n ↔
    candidates ≠ [] ∧ (∀ c ∈ candidates, base.isMeant c = false) ∧ candidates.length = n := by
  have unmet : (∀ c ∈ candidates, base.isMeant c = false) ↔
      candidates.find? base.isMeant = none := by simp
  rw [unmet]
  unfold Lookup.among
  split
  case isTrue none => simp [none]
  case isFalse some => cases candidates.find? base.isMeant <;> simp [some]

theorem among_isFound_iff : (Lookup.among base candidates settings).isFound = true ↔
    ∃ c ∈ candidates, base.isMeant c = true := by
  rw [← List.find?_isSome]
  unfold Lookup.among
  split
  case isTrue none => simp [none, Lookup.isFound]
  case isFalse => cases candidates.find? base.isMeant <;> rfl

theorem among_unfound (unfound : (Lookup.among base candidates settings).isFound = false) :
    ∀ c ∈ candidates, c.name ≠ some base.name := by
  intro c member same
  have meant : base.isMeant c = true := by simp [Snapshot.isMeant, same]
  exact Bool.false_ne_true (unfound.symm.trans (among_isFound_iff.mpr ⟨c, member, meant⟩))

theorem among_picked (named : base.name ≠ "")
    (found : Lookup.among base candidates settings = .found r) :
    ∃ c, candidates.find? (·.name = some base.name) = some c ∧ r = base.describedBy c settings := by
  obtain ⟨c, picked, same⟩ := among_found_iff.mp found
  exact ⟨c, Snapshot.isMeant_named named ▸ picked, same.symm⟩

end

namespace Snapshot
variable {base : Snapshot} {candidates : List Candidate} {c : Candidate} {settings : Settings}

theorem describedBy_adopts (picks : base.Picks candidates c) :
    (base.describedBy c settings).Adopts base c settings where
  named named := picked_name named (picks.own named) settings
  nameless nameless := by
    simp only [name] at nameless ⊢
    simp only [describedBy, Spec.describedBy, nameless]
    cases c.name with
    | none => rfl
    | some text =>
      by_cases empty : text = "" <;>
        simp [nonEmptyText, textOrEmpty, empty, Option.filter_some]
  registryId := rfl
  lifecyclePolicy := rfl
  policy := rfl
  tags := rfl
  synced := rfl
  terminal := rfl
  terminalSpec := rfl
  createdAt := rfl
  arn := rfl
  reportedRegistry := rfl
  uri := rfl
  mutability := rfl
  scanning := rfl
  encryption := rfl
  ownerAccount := rfl
  region := rfl

theorem describedBy_again (base : Snapshot) (c : Candidate) (settings : Settings) :
    (base.describedBy c settings).describedBy c settings = base.describedBy c settings := by
  have twice {α : Type} (a b : Option α) : a.or (a.or b) = a.or b := by cases a <;> rfl
  have filled {α : Type} (a b : Option α) : (a.or b).or b = a.or b := by
    cases a <;> cases b <;> rfl
  have name : (nonEmptyText c.name).getD ((nonEmptyText c.name).getD base.spec.name) =
      (nonEmptyText c.name).getD base.spec.name := by
    cases nonEmptyText c.name <;> rfl
  simp only [describedBy, Spec.describedBy, Status.describedBy, Status.withOwner, twice, filled, name]

theorem Picks.again (picks : base.Picks candidates c) (settings : Settings) :
    (base.describedBy c settings).Picks candidates c := by
  have adopts : (base.describedBy c settings).Adopts base c settings := describedBy_adopts picks
  obtain ⟨before, after, rfl, first, own⟩ := picks
  by_cases nameless : base.name = ""
  · refine ⟨before, after, rfl, fun _ => first nameless, fun named => ?_⟩
    rw [adopts.nameless nameless] at named ⊢
    -- Nothing stands before a candidate that a nameless base picks.
    rw [first nameless]
    refine ⟨?_, by simp⟩
    cases given : c.name with
    | none => simp [given, textOrEmpty] at named
    | some text => rfl
  · have kept := adopts.named nameless
    refine ⟨before, after, rfl, fun none => absurd (kept ▸ none) nameless, fun _ => ?_⟩
    rw [kept]
    exact own nameless

theorem Picks.alone (picks : base.Picks candidates c) : base.Picks [c] c :=
  ⟨[], [], rfl, fun _ => rfl, fun named => ⟨picks.own named, by simp⟩⟩

end Snapshot

section
variable {base r : Snapshot} {candidates : List Candidate} {c : Candidate}

theorem among_picks_iff {settings : Settings} :
    Lookup.among base candidates settings = .found r ↔
      ∃ c, base.Picks candidates c ∧ base.describedBy c settings = r := by
  simp only [among_found_iff, Snapshot.picks_iff]

theorem Snapshot.Picks.found (picks : base.Picks candidates c) (settings : Settings) :
    Lookup.among base candidates settings = .found (base.describedBy c settings) :=
  among_picks_iff.mpr ⟨c, picks, rfl⟩

end

/-- A name that is known decides alone what is found. What is found depends on the candidate picked and
    on no other, adopts what that one carries, and looking it up again changes nothing. -/
theorem lookup_adopts_only_the_name_meant (base : Snapshot) (candidates : List Candidate)
    (settings : Settings) :
    (Lookup.among base candidates settings = .empty ↔ candidates = []) ∧
    (base.name = "" → candidates ≠ [] →
      (Lookup.among base candidates settings).isFound = true) ∧
    (base.name ≠ "" →
      ((Lookup.among base candidates settings).isFound = true ↔
        ∃ c ∈ candidates, c.name = some base.name) ∧
      ∀ n, Lookup.among base candidates settings = .noMatch n ↔
        candidates ≠ [] ∧ (∀ c ∈ candidates, c.name ≠ some base.name) ∧ n = candidates.length) ∧
    (∀ c, base.Picks candidates c →
      Lookup.among base candidates settings = Lookup.among base [c] settings) ∧
    ∀ r, Lookup.among base candidates settings = .found r →
      (∃ c, base.Picks candidates c ∧ r.Adopts base c settings) ∧
      Lookup.among r candidates settings = .found r := by
  refine ⟨among_empty_iff, fun nameless some => ?_, fun named => ⟨?_, fun n => ?_⟩,
    fun c picks => ?_, fun r found => ?_⟩
  · obtain ⟨c, member⟩ := List.exists_mem_of_ne_nil candidates some
    exact among_isFound_iff.mpr ⟨c, member, Snapshot.isMeant_nameless nameless c⟩
  · simp [among_isFound_iff, Snapshot.isMeant_named named]
  · simp [among_noMatch_iff, Snapshot.isMeant_named named, eq_comm]
  · exact (picks.found settings).trans (picks.alone.found settings).symm
  · obtain ⟨c, picks, rfl⟩ := among_picks_iff.mp found
    refine ⟨⟨c, picks, Snapshot.describedBy_adopts picks⟩, ?_⟩
    have again := (picks.again settings).found settings
    rwa [Snapshot.describedBy_again] at again

theorem twin_of_another_name_is_left :
    let settings := Settings.of "1234" "eu-west-1"
    let stranger : Candidate := { name := some "other", arn := some "arn:1" }
    let own : Candidate := { name := some "app", arn := some "arn:2", mutability := some .immutable }
    let twin : Candidate := { name := some "app", arn := some "arn:3" }
    let base : Snapshot := ⟨{ name := "app", mutability := some .mutable }, { uri := some "u" }⟩
    let nameless : Snapshot := ⟨{ name := "" }, {}⟩
    let candidates := [{}, stranger, own, twin]
    (∃ r, Lookup.among base candidates settings = .found r ∧ r.status.arn = some "arn:2" ∧
      r.status.uri = none ∧ r.spec.mutability = some .immutable ∧
      Lookup.among r candidates settings = .found r) ∧
    Lookup.among base candidates settings = Lookup.among base [own] settings ∧
    Lookup.among base [stranger, {}] settings = .noMatch 2 ∧
    (Lookup.among nameless [stranger, own] settings).isFound = true ∧
    Lookup.among base [] settings = .empty := by
  intro settings stranger own twin base nameless candidates
  have picked : base.Picks candidates own := Snapshot.picks_iff.mpr (by decide)
  have whole := lookup_adopts_only_the_name_meant base candidates settings
  have unmet := lookup_adopts_only_the_name_meant base [stranger, {}] settings
  have first := lookup_adopts_only_the_name_meant nameless [stranger, own] settings
  have again := (whole.2.2.2.2 _ (picked.found settings)).2
  exact ⟨⟨_, picked.found settings, rfl, rfl, rfl, again⟩, whole.2.2.2.1 own picked,
    ((unmet.2.2.1 (by decide)).2 2).mpr (by decide), first.2.1 rfl (by decide),
    (lookup_adopts_only_the_name_meant base [] settings).1.mpr rfl⟩

end Registrar
