import Registrar.Ecr
import Registrar.Proofs.Holding
import Registrar.Proofs.TagStore

/- Synchronising the tags that a remote keeps. An untagging and a tagging make the kept tags the same
   as the desired ones, and leave a synchronisation to go on with wherever they are cut short. -/
namespace Registrar

def Request.onTags (keep : Tag → Tag) : Request → List Tag → List Tag
  | .untag _ keys, tags => Tag.dropKeys tags keys
  | .tag _ new, tags => Tag.putAll tags (new.map keep)
  | _, tags => tags

def Ecr.received (t : Tag) : Tag := Ecr.tag (Ecr.tagJson t)

/-- A remote that has tags of a resource and grants its tag requests. It may keep an absent value as the
    empty one. -/
structure KeepsTags (remote : Remote σ) (arn : String) (kept : σ → Option (List Tag))
    (keep : Tag → Tag) : Prop where
  restates : ∀ t, keep t = t ∨ keep t = Ecr.received t
  untags : ∀ {s tags}, kept s = some tags → ∀ keys, ∃ u,
    remote.answer s (.untag arn keys) = (.ok (), u) ∧ kept u = some (Tag.dropKeys tags keys)
  sets : ∀ {s tags}, kept s = some tags → ∀ new, ∃ u,
    remote.answer s (.tag arn new) = (.ok (), u) ∧ kept u = some (Tag.putAll tags (new.map keep))

def Remote.throughService (remote : Remote σ) : Remote σ where
  answer s
    | .tag arn tags => remote.answer s (.tag arn (tags.map Ecr.received))
    | q => remote.answer s q

theorem KeepsTags.throughService {remote : Remote σ} {arn : String} {kept : σ → Option (List Tag)}
    (keeps : KeepsTags remote arn kept id) : KeepsTags remote.throughService arn kept Ecr.received where
  restates _ := .inr rfl
  untags := keeps.untags
  sets holds new := by
    obtain ⟨u, answer, left⟩ := keeps.sets holds (new.map Ecr.received)
    rw [List.map_id] at left
    exact ⟨u, answer, left⟩

namespace Registry

def answersItself (r : Registry) (op : Operation) : Bool :=
  (r.script op).isEmpty && (r.failing op).isNone

def keptTags (name : String) (r : Registry) : Option (List Tag) :=
  if r.answersItself .tag && r.answersItself .untag then (r.held? name).map Stored.tags else none

theorem answer_itself {r : Registry} {q : Request} (itself : r.answersItself q.operation = true) :
    r.answer q = r.act q := by
  obtain ⟨unscripted, working⟩ := (Bool.and_eq_true _ _).mp itself
  rcases answer_unscripted (List.isEmpty_iff.mp unscripted) with ⟨e, failing, _⟩ | ⟨_, acts⟩
  · rw [failing] at working
    cases working
  · exact acts

theorem keptTags_put {name : String} {r : Registry} {tags : List Tag}
    (holds : keptTags name r = some tags) : ∃ s : Stored, r.held? s.name = some s ∧ s.name = name ∧
      s.tags = tags ∧ r.answersItself .tag = true ∧ r.answersItself .untag = true ∧
      ∀ t : Stored, t.name = name → keptTags name (r.put t) = some t.tags := by
  rw [keptTags, Option.ite_none_right_eq_some, Option.map_eq_some_iff] at holds
  obtain ⟨itself, s, held, has⟩ := holds
  have own : s.name = name := by simpa using List.find?_some held
  obtain ⟨tagging, untagging⟩ := (Bool.and_eq_true _ _).mp itself
  refine ⟨s, own.symm ▸ held, own, has, tagging, untagging, fun t same => ?_⟩
  rw [keptTags, held_put, if_pos same]
  exact if_pos itself

theorem keeps_tags (name : String) : KeepsTags remote (arnOf name) (keptTags name) id where
  restates _ := .inl rfl
  untags holds keys := by
    obtain ⟨s, held, rfl, rfl, _, itself, left⟩ := keptTags_put holds
    obtain ⟨_, acted⟩ := act_takes held (q := .untag (arnOf s.name) keys) rfl
    exact ⟨_, (answer_itself itself).trans acted, left _ rfl⟩
  sets holds new := by
    obtain ⟨s, held, rfl, rfl, itself, _, left⟩ := keptTags_put holds
    obtain ⟨_, acted⟩ := act_takes held (q := .tag (arnOf s.name) new) rfl
    rw [List.map_id]
    exact ⟨_, (answer_itself itself).trans acted, left _ rfl⟩

end Registry

namespace Tag

theorem put_keeps_others {other : String → Bool} {t : Tag} (mine : other t.key = false)
    (tags : List Tag) : (put t tags).filter (other ·.key) = tags.filter (other ·.key) := by
  induction tags with
  | nil => simp [put, mine]
  | cons u rest ih =>
    rw [put]
    split
    · rename_i same
      simp [same, mine]
    · rw [List.filter_cons, List.filter_cons, ih]

theorem putAll_keeps_others {other : String → Bool} {ups : List Tag}
    (mine : ∀ key ∈ keys ups, other key = false) (tags : List Tag) :
    (putAll tags ups).filter (other ·.key) = tags.filter (other ·.key) := by
  induction ups generalizing tags with
  | nil => rfl
  | cons t ups ih =>
    obtain ⟨first, later⟩ := List.forall_mem_cons.mp mine
    rw [putAll, List.foldl_cons, ← putAll, ih later, put_keeps_others first]

theorem dropKeys_keeps_others {other : String → Bool} {gone : List String}
    (mine : ∀ key ∈ gone, other key = false) (tags : List Tag) :
    (dropKeys tags gone).filter (other ·.key) = tags.filter (other ·.key) := by
  rw [dropKeys, List.filter_filter]
  refine List.filter_congr fun t _ => ?_
  by_cases named : t.key ∈ gone
  · simp [mine t.key named]
  · simp [named]

end Tag

namespace KeepsTags
variable {remote : Remote σ} {arn : String} {kept : σ → Option (List Tag)}
  {keep : Tag → Tag}

theorem meaning (keeps : KeepsTags remote arn kept keep) (tags : List Tag) :
    (tags.map keep).map Tag.meaning = tags.map Tag.meaning := by
  rw [List.map_map]
  refine List.map_congr_left fun t _ => ?_
  rcases keeps.restates t with same | received
  · rw [Function.comp_apply, same]
  · rw [Function.comp_apply, received]
    rfl

theorem answers (keeps : KeepsTags remote arn kept keep) {q : Request}
    (tagging : (∃ keys, q = .untag arn keys) ∨ ∃ tags, q = .tag arn tags) {s : σ} {old : List Tag}
    (holds : kept s = some old) :
    ∃ b u, remote.answer s q = (.ok b, u) ∧ kept u = some (q.onTags keep old) := by
  rcases tagging with ⟨keys, rfl⟩ | ⟨tags, rfl⟩
  · obtain ⟨u, answer, left⟩ := keeps.untags holds keys
    exact ⟨(), u, answer, left⟩
  · obtain ⟨u, answer, left⟩ := keeps.sets holds tags
    exact ⟨(), u, answer, left⟩

theorem delivered (keeps : KeepsTags remote arn kept keep) {limit : Option Nat} {qs : List Request}
    {xs : List Exchange} {stop : Option Failure} (run : FailFast limit qs xs stop)
    (tagging : ∀ q ∈ qs, (∃ keys, q = .untag arn keys) ∨ ∃ tags, q = .tag arn tags) {s u : σ}
    {old : List Tag} (holds : kept s = some old) (replays : Replays remote s xs u) :
    ∃ done rest, qs = done ++ rest ∧
      kept u = some (done.foldl (fun tags q => q.onTags keep tags) old) ∧
      (limit = none → rest = [] ∧ stop = none) := by
  induction run generalizing s old with
  | finished =>
    cases replays
    exact ⟨[], [], rfl, holds, fun _ => ⟨rfl, rfl⟩⟩
  | cancelled q rest cut =>
    cases replays
    exact ⟨[], q :: rest, rfl, holds, fun unlimited => absurd unlimited cut⟩
  | @refused q e rest hard =>
    obtain ⟨b, v, granted, _⟩ := keeps.answers (tagging q (.head _)) holds
    cases replays with
    | cons answer _ => cases granted.symm.trans answer
  | @passed x rest xs stop through tail ih =>
    obtain ⟨b, v, granted, left⟩ := keeps.answers (tagging x.request (.head _)) holds
    cases replays with
    | cons answer replays =>
      obtain rfl := congrArg Prod.snd (granted.symm.trans answer)
      obtain ⟨done, more, rfl, after, ends⟩ :=
        ih (fun q member => tagging q (.tail _ member)) left replays
      exact ⟨x.request :: done, more, rfl, after, ends⟩

end KeepsTags

theorem ok_of_stopOf {r : Except Failure Unit} (unstopped : stopOf r = none) : r = .ok () := by
  cases r with
  | ok b => rfl
  | error f => cases unstopped

section
variable {keep : Tag → Tag} {old new : List Tag} {arn : String} {settings : Settings}
  {desired : Snapshot}

theorem tag_requests_tag {q : Request} (asked : q ∈ Field.tags.requests settings desired arn old) :
    (∃ keys, q = .untag arn keys) ∨ ∃ tags, q = .tag arn tags := by
  rw [Field.requests] at asked
  rcases List.mem_append.mp asked with untagging | tagging
  · split at untagging
    · exact .inl ⟨_, List.mem_singleton.mp untagging⟩
    · cases untagging
  · split at tagging
    · exact .inr ⟨_, List.mem_singleton.mp tagging⟩
    · cases tagging

theorem optional_parted {c : Prop} [Decidable c] {q : Request} {done rest : List Request}
    (parted : (if c then [q] else []) = done ++ rest) : done = [] ∨ rest = [] := by
  cases done with
  | nil => exact .inl rfl
  | cons d done =>
    split at parted
    · have tail : [] = done ++ rest := (List.cons.inj parted).2
      exact .inr (List.append_eq_nil_iff.mp tail.symm).2
    · cases parted

/-- A first part of the tag requests does nothing, the untagging, or both. A request that is left out
    would do nothing. -/
theorem onTags_parted {done rest : List Request}
    (parted : Field.tags.requests settings desired arn old = done ++ rest) :
    let delta := TagDelta.between old desired.spec.tags
    let untagged := Tag.dropKeys old delta.removed
    let tagged := Tag.putAll untagged (delta.upserts.map keep)
    let left := done.foldl (fun tags q => q.onTags keep tags) old
    left ∈ [old, untagged, tagged] ∧ (rest = [] → left = tagged) := by
  intro delta untagged tagged left
  have untagging : (if delta.removed ≠ [] then [Request.untag arn delta.removed] else []).foldl
      (fun tags q => q.onTags keep tags) old = untagged := by
    split
    · rfl
    · rename_i none
      simp [untagged, not_not.mp none, Tag.dropKeys]
  have tagging : (if delta.upserts ≠ [] then [Request.tag arn delta.upserts] else []).foldl
      (fun tags q => q.onTags keep tags) untagged = tagged := by
    split
    · rfl
    · rename_i none
      simp [tagged, not_not.mp none, Tag.putAll]
  have all : rest = [] → left = tagged := by
    rintro rfl
    rw [List.append_nil] at parted
    rw [← tagging, ← untagging, ← List.foldl_append]
    exact congrArg (List.foldl _ old) parted.symm
  refine ⟨?_, all⟩
  rcases List.append_eq_append_iff.mp parted with ⟨part, rfl, second⟩ | ⟨part, first, _⟩
  · rcases optional_parted second with rfl | rfl
    · have made : left = untagged := by rw [← untagging, ← List.append_nil (ite _ _ _)]
      simp [made]
    · simp [all rfl]
  · rcases optional_parted first with rfl | rfl
    · exact .head _
    · have made : left = untagged := by
        rw [← untagging]
        exact congrArg (List.foldl _ old) (first.trans (List.append_nil done)).symm
      simp [made]

end

/-- Untagging what is to go and tagging what is to come makes the kept tags the same as the desired ones,
    and leaves all others as they are. The untagging alone leaves the tagging to be done. A pass that
    pushes tags comes by no other tags on its way. -/
theorem tags_are_synchronised {remote : Remote σ} {arn : String} {kept : σ → Option (List Tag)}
    {keep : Tag → Tag} (keeps : KeepsTags remote arn kept keep) {s : σ} {old : List Tag}
    (holds : kept s = some old) (new : List Tag) :
    let delta := TagDelta.between old new
    let other := fun key => decide (key ∉ delta.removed ∧ key ∉ Tag.keys delta.upserts)
    ∃ u v untagged tagged,
      remote.answer s (.untag arn delta.removed) = (.ok (), u) ∧ kept u = some untagged ∧
      remote.answer u (.tag arn delta.upserts) = (.ok (), v) ∧ kept v = some tagged ∧
      sameTags tagged new = true ∧
      tagged.filter (other ·.key) = old.filter (other ·.key) ∧
      TagDelta.between untagged new = { delta with removed := [] } ∧
      ∀ desired latest : Snapshot, desired.spec.tags = new → latest.spec.tags = old →
        latest.arn.or desired.arn = some arn →
        (∀ limit, kept ((pushTags desired latest).run remote limit s).state ∈
          [some old, some untagged, some tagged]) ∧
        ((pushTags desired latest).run remote none s).result = .ok () ∧
        kept ((pushTags desired latest).run remote none s).state = some tagged := by
  intro delta other
  obtain ⟨u, untagging, gone⟩ := keeps.untags holds delta.removed
  obtain ⟨v, tagging, set⟩ := keeps.sets gone delta.upserts
  have meaning := keeps.meaning delta.upserts
  refine ⟨u, v, _, _, untagging, gone, tagging, set, ?_, ?_, TagDelta.between_untagged, ?_⟩
  · exact sameTags_iff.mpr (TagDelta.valueAt_synchronised meaning)
  · have set : ∀ key ∈ Tag.keys (delta.upserts.map keep), other key = false := by
      intro key named
      rw [Tag.keys_of_meaning meaning] at named
      simp [other, named]
    have dropped : ∀ key ∈ delta.removed, other key = false := by
      intro key named
      simp [other, named]
    rw [Tag.putAll_keeps_others set, Tag.dropKeys_keeps_others dropped]
  · rintro desired latest rfl shown located
    have asked (limit : Option Nat) : ∃ done rest,
        Field.tags.requests (.of "" "") desired arn old = done ++ rest ∧
        kept ((pushTags desired latest).run remote limit s).state =
          some (done.foldl (fun tags q => q.onTags keep tags) old) ∧
        (limit = none → rest = [] ∧
          stopOf ((pushTags desired latest).run remote limit s).result = none) := by
      have course := course_of_attempt remote limit (pushTags desired latest) s
      have course := Attempt.course_congr (Attempt.silent_pushTags (.of "" "") located) course
      have run := failFast_of_course course
      rw [shown] at run
      exact keeps.delivered run (fun _ => tag_requests_tag) holds (course_replays course)
    constructor
    · intro limit
      obtain ⟨done, rest, parted, left, _⟩ := asked limit
      rw [left]
      simpa using (onTags_parted parted).1
    · obtain ⟨done, rest, parted, left, ends⟩ := asked none
      refine ⟨ok_of_stopOf (ends rfl).2, ?_⟩
      rw [left, (onTags_parted parted).2 (ends rfl).1]

theorem repeated_tags_are_synchronised :
    let old : List Tag := [⟨"env", some "a"⟩, ⟨"owner", none⟩, ⟨"env", some "b"⟩, ⟨"tier", some "1"⟩]
    let new : List Tag := [⟨"env", none⟩, ⟨"cost", some "7"⟩, ⟨"env", some "c"⟩, ⟨"owner", some ""⟩]
    let r : Registry := { stored := [{ name := "app", tags := old }] }
    let desired : Snapshot := { spec := { name := "app", tags := new } }
    let latest : Snapshot :=
      { spec := { name := "app", tags := old }, status := { arn := some (Registry.arnOf "app") } }
    let remote := Registry.remote.throughService
    let tagged := [⟨"env", some ""⟩, ⟨"owner", none⟩, ⟨"env", some "b"⟩, ⟨"cost", some "7"⟩]
    KeepsTags remote (Registry.arnOf "app") (Registry.keptTags "app") Ecr.received ∧
      Registry.keptTags "app" r = some old ∧
      Registry.keptTags "app" ((pushTags desired latest).run remote none r).state = some tagged ∧
      sameTags tagged new = true := by
  intro old new r desired latest remote tagged
  have keeps := (Registry.keeps_tags "app").throughService
  have holds : Registry.keptTags "app" r = some old := rfl
  obtain ⟨_, _, _, reached, _, _, _, _, same, _, _, pushes⟩ := tags_are_synchronised keeps holds new
  obtain ⟨_, _, state⟩ := pushes desired latest rfl rfl rfl
  have tags : some tagged = some reached := state
  cases tags
  exact ⟨keeps, holds, state, same⟩

end Registrar
