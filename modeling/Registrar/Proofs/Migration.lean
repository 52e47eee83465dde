import Mathlib
import Registrar.Proofs.Ascending
import Registrar.Proofs.NormalForm
import Registrar.Proofs.SettingsFile
import Registrar.Proofs.Unmentioned

/- What the version in a file of settings decides. It is a natural number or it counts as none; one
   that is too high is refused, and with any other the file is read as if it were of the current
   version, since the list of codes that is added to an old one says what goes without saying. -/
namespace Registrar

open Reading (Placed Record)

namespace Text

def trimmed (s : String) : List Char := (s.toList.dropWhile isBlank).rdropWhile isBlank

theorem trimmed_eq_nil_iff (s : String) : trimmed s = [] ↔ allBlank s = true := by
  rw [trimmed, List.rdropWhile_eq_nil_iff, allBlank, List.all_eq_true]
  constructor
  · intro blank
    refine List.dropWhile_eq_nil_iff.mp ?_
    cases left : s.toList.dropWhile isBlank with
    | nil => rfl
    | cons c rest =>
      -- What is left starts with a character that is not blank.
      have solid := List.head_dropWhile_not (p := isBlank) (l := s.toList) (by simp [left])
      simp only [left, List.head_cons] at solid
      rw [blank c (by simp [left])] at solid
      cases solid
  · intro blank
    rw [List.dropWhile_eq_nil_iff.mpr blank]
    intro c none
    cases none

end Text

namespace Settings

def Defect.ofVersion (n : Nat) : Defect :=
  if UInt32.size ≤ n then .versionOutOfRange n else .versionTooNew n

def accepted (v : Json) : Except Failure Settings :=
  match ofJson v with
  | .error f => .error (.unreadable f)
  | .ok s => do
    s.validate
    .ok s

def loadValue (v : Json) : Except Failure Settings := migrated v >>= accepted

def said? (bytes : ByteArray) : Option Json :=
  (String.fromUTF8? bytes).bind fun text => Json.parse? text.toList

theorem load_said {text : List Char} {v : Json} (said : Json.parse? text = some v) :
    load text = loadValue v := by
  simp only [load, said]
  rfl

theorem loadBytes_said {bytes : ByteArray} {v : Json} (said : said? bytes = some v) :
    loadBytes (some bytes) = loadValue v := by
  obtain ⟨text, decoded, said⟩ := Option.bind_eq_some_iff.mp said
  rw [loadBytes, decoded]
  exact load_said said

theorem said?_ascending {bytes : ByteArray} {members : List (String × Json)}
    (said : said? bytes = some (.object members)) : Json.Ascending members := by
  obtain ⟨text, _, said⟩ := Option.bind_eq_some_iff.mp said
  exact Json.parse?_ascending said

theorem said?_toUTF8 (text : String) : said? text.toUTF8 = Json.parse? text.toList := by
  have decoded : String.fromUTF8? text.toUTF8 = some text := dif_pos text.isValidUTF8
  rw [said?, decoded, Option.bind_some]

section
variable {members : List (String × Json)}

theorem declaredVersion_natural {v : Json} {n : Nat}
    (declares : v.member? "config_version" = some (.natural n)) : declaredVersion v = n := by
  rw [declaredVersion, declares]
  simp [Json.natural]

theorem declares_of_pos {v : Json} (positive : 0 < declaredVersion v) :
    v.member? "config_version" = some (.natural (declaredVersion v)) := by
  rw [declaredVersion] at positive ⊢
  split at positive
  · rename_i z found
    split at positive
    · rename_i natural
      rw [found, Json.natural, if_pos natural, Int.toNat_of_nonneg natural]
    · cases positive
  · cases positive

theorem ofJson_unmentioned (distinct : (members.map Prod.fst).Nodup)
    (absent : members.lookup "terminal_error_codes" = none) :
    ofJson (.object members) =
      ofJson (.object (Json.putMember "terminal_error_codes" (.array []) members)) := by
  have fresh : "terminal_error_codes" ∉ members.map Prod.fst := by
    intro named
    obtain ⟨⟨_, v⟩, member, rfl⟩ := List.mem_map.mp named
    rw [Json.lookup_of_mem distinct member] at absent
    cases absent
  have order := (Json.putMember_perm (.array []) fresh).map Prod.fst
  have distinct' := order.nodup_iff.mpr (List.nodup_cons.mpr ⟨fresh, distinct⟩)
  obtain ⟨before, after, rfl, put⟩ := Json.putMember_fresh (.array []) fresh
  rw [put] at distinct' ⊢
  rw [ofJson, ofJson, ofDocument]
  have adds := Record.ofMembers_adds "ReconcilerConfig" fields (v := .array []) fresh
  refine Record.read_alike before.length distinct distinct' ?_
  -- Field by field, in the order in which the settings are built: only the codes are the new member's.
  refine .seq (.seq (.seq (.seq (.seq (.seq (.map _ ?_) ?_) ?_) ?_) ?_) ?_) ?_
  · exact adds.defaulted (by decide)
  · exact adds.required (by decide)
  · exact adds.required (by decide)
  · exact adds.defaulted (by decide)
  · exact adds.defaulted (by decide)
  · exact adds.own rfl
  · exact adds.defaulted (by decide)

theorem loadValue_new {v : Json} {n : Nat} (declares : v.member? "config_version" = some (.natural n))
    (new : currentVersion.toNat < n) :
    loadValue v = .error (.unusable (Defect.ofVersion n).message) := by
  have declared := declaredVersion_natural declares
  simp only [loadValue, migrated, declared, Defect.ofVersion, if_pos new]
  split <;> rfl

theorem migrated_undeclared (undeclared : declaredVersion (.object members) = 0) :
    migrated (.object members) =
      .ok (.object (Json.putMember "config_version" (.natural currentVersion.toNat)
        (if (members.lookup "terminal_error_codes").isSome then members
          else Json.putMember "terminal_error_codes" (.array []) members))) := by
  simp only [migrated, undeclared]
  rfl

/-- With any other version a file is read as if it were of the current one. -/
theorem loadValue_old (ascending : Json.Ascending members)
    (old : ∀ n, members.lookup "config_version" = some (.natural n) → n ≤ currentVersion.toNat) :
    loadValue (.object members) =
      accepted (.object (Json.putMember "config_version" (.natural currentVersion.toNat) members)) := by
  have low : declaredVersion (.object members) ≤ currentVersion.toNat := by
    by_contra high
    exact high (old _ (declares_of_pos (Nat.zero_lt_of_lt (Nat.not_le.mp high))))
  by_cases current : declaredVersion (.object members) = currentVersion.toNat
  · have declares := declares_of_pos (v := .object members) (by rw [current]; decide)
    rw [current] at declares
    rw [loadValue, migrated_current declares, Json.putMember_there ascending declares]
    rfl
  · have undeclared : declaredVersion (.object members) = 0 := by
      have one : currentVersion.toNat = 1 := rfl
      omega
    rw [loadValue, migrated_undeclared undeclared]
    change accepted _ = _
    split
    · rfl
    · rename_i absent
      have absent := Option.not_isSome_iff_eq_none.mp absent
      have stamped := Json.putMember_ascending "config_version" (.natural currentVersion.toNat) ascending
      rw [Json.putMember_comm (by decide), accepted, accepted,
        ofJson_unmentioned stamped.distinct ((Json.lookup_putMember_of_ne (by decide) _ _).trans absent)]

theorem of_loadBytes {content : Option ByteArray} {s : Settings} (loads : loadBytes content = .ok s) :
    ∃ bytes members, content = some bytes ∧ said? bytes = some (.object members) ∧
      s.version = currentVersion ∧ s.validate = .ok () := by
  cases content with
  | none => cases loads
  | some bytes =>
    cases decoded : String.fromUTF8? bytes with
    | none =>
      rw [loadBytes, decoded] at loads
      cases loads
    | some text =>
      rw [loadBytes, decoded] at loads
      obtain ⟨current, valid⟩ := of_load loads
      have same : said? bytes = Json.parse? text.toList := by rw [said?, decoded, Option.bind_some]
      cases said : Json.parse? text.toList with
      | none =>
        simp only [load, said] at loads
        cases loads
      | some v =>
        cases v with
        | object members => exact ⟨bytes, members, rfl, same.trans said, current, valid⟩
        | _ =>
          simp only [load, said] at loads
          cases loads

theorem trimmed_of_validate {s : Settings} (valid : s.validate = .ok ()) :
    Text.trimmed s.account ≠ [] ∧ Text.trimmed s.region ≠ [] := by
  rw [Ne, Ne, Text.trimmed_eq_nil_iff, Text.trimmed_eq_nil_iff]
  constructor
  · intro blank
    rw [validate, defect?, if_pos blank] at valid
    cases valid
  · intro blank
    rw [validate, defect?] at valid
    by_cases empty : Text.allBlank s.account = true
    · rw [if_pos empty] at valid
      cases valid
    · rw [if_neg empty, if_pos blank] at valid
      cases valid

end

end Settings

open Settings

/-- A file without a version, or of version 0, is loaded as one that says the same and is of version 1,
    with the same fault if there is one. What is loaded at all is an object, is of the current version
    from then on, and names an account and a region. -/
theorem migration_is_neutral :
    (∀ bytes bytes' members, said? bytes = some (.object members) →
      members.lookup "config_version" = none ∨
        members.lookup "config_version" = some (.natural 0) →
      said? bytes' = some (.object (Json.putMember "config_version" (.natural 1) members)) →
      loadBytes (some bytes) = loadBytes (some bytes')) ∧
    ∀ content s, loadBytes content = .ok s →
      ∃ bytes members, content = some bytes ∧ said? bytes = some (.object members) ∧
        s.version = currentVersion ∧ Text.trimmed s.account ≠ [] ∧ Text.trimmed s.region ≠ [] := by
  constructor
  · intro bytes bytes' members said unversioned said'
    have ascending := said?_ascending said
    have old : ∀ n, members.lookup "config_version" = some (.natural n) →
        n ≤ currentVersion.toNat := by
      intro n declares
      rcases unversioned with none | zero
      · cases none.symm.trans declares
      · cases zero.symm.trans declares
        exact Nat.zero_le _
    have current := migrated_current (v := .object _)
      (Json.lookup_putMember "config_version" (.natural 1) members)
    rw [loadBytes_said said, loadBytes_said said', loadValue_old ascending old, loadValue, current]
    rfl
  · intro content s loads
    obtain ⟨bytes, members, stored, said, current, valid⟩ := of_loadBytes loads
    exact ⟨bytes, members, stored, said, current, trimmed_of_validate valid⟩

def Settings.unversioned : String := "\x7b\"account_id\": \" 1\", \"region\": \"eu\"\x7d"

def Settings.versioned : String :=
  "\x7b\"config_version\": 1, \"account_id\": \" 1\", \"region\": \"eu\"\x7d"

theorem unversioned_file_is_migrated :
    loadBytes (some unversioned.toUTF8) = loadBytes (some versioned.toUTF8) ∧
      ∃ s, loadBytes (some unversioned.toUTF8) = .ok s ∧ s.account = " 1" ∧
        s.version = currentVersion ∧ Text.trimmed s.account ≠ [] ∧ Text.trimmed s.region ≠ [] := by
  have parsed : Json.parse? unversioned.toList =
      some (.object [("account_id", .string " 1"), ("region", .string "eu")]) := by cbv
  have parsed' : Json.parse? versioned.toList = some (.object [("account_id", .string " 1"),
      ("config_version", .natural 1), ("region", .string "eu")]) := by cbv
  have said := (said?_toUTF8 unversioned).trans parsed
  have said' := (said?_toUTF8 versioned).trans parsed'
  have same := migration_is_neutral.1 _ _ _ said (.inl rfl) said'
  have loads : loadValue (.object [("account_id", .string " 1"), ("region", .string "eu")]) =
      .ok (.of " 1" "eu") := rfl
  have loads := (loadBytes_said said).trans loads
  obtain ⟨_, _, _, _, sound⟩ := migration_is_neutral.2 _ _ loads
  exact ⟨same, _, loads, rfl, sound⟩

/-- Of the versions that are neither null nor 0 or 1, the natural numbers alone are refused as such.
    With any other value a file is refused exactly if it is refused at version 1: the version counts
    as 0, and the file is brought up to date. -/
theorem version_refused_iff {bytes : ByteArray} {members : List (String × Json)}
    (said : said? bytes = some (.object members)) :
    let version := members.lookup "config_version"
    let current := accepted (.object (Json.putMember "config_version" (.natural 1) members))
    (declaredVersion (.object members) = 0 ↔ ∀ n, version = some (.natural n) → n = 0) ∧
      (∀ n, version = some (.natural n) → 1 < n →
        loadBytes (some bytes) = .error (.unusable (Defect.ofVersion n).message)) ∧
      ((∀ n, version = some (.natural n) → n ≤ 1) → loadBytes (some bytes) = current) ∧
      ∀ w, version = some w → w ≠ .null → w ≠ .natural 0 → w ≠ .natural 1 →
        ((∃ f, loadBytes (some bytes) = .error f) ↔
          (∃ n, w = .natural n) ∨ ∃ f, current = .error f) := by
  intro version current
  have new : ∀ n, version = some (.natural n) → 1 < n →
      loadBytes (some bytes) = .error (.unusable (Defect.ofVersion n).message) := by
    intro n declares high
    rw [loadBytes_said said]
    exact loadValue_new declares high
  have old : (∀ n, version = some (.natural n) → n ≤ 1) → loadBytes (some bytes) = current := by
    intro low
    rw [loadBytes_said said]
    exact loadValue_old (said?_ascending said) low
  refine ⟨⟨?_, ?_⟩, new, old, ?_⟩
  · intro none n declares
    exact (declaredVersion_natural (v := .object members) declares).symm.trans none
  · intro zero
    by_contra some
    exact some (zero _ (declares_of_pos (Nat.pos_of_ne_zero some)))
  · intro w declares _ zero one
    -- A natural number is above 1 here, and all that is no natural number is old.
    by_cases natural : ∃ n, w = .natural n
    · obtain ⟨n, rfl⟩ := natural
      have high : 1 < n := by
        rcases n with _ | _ | n
        · exact absurd rfl zero
        · exact absurd rfl one
        · omega
      exact iff_of_true ⟨_, new n declares high⟩ (.inl ⟨n, rfl⟩)
    · rw [old fun n same => absurd ⟨n, Option.some.inj (declares.symm.trans same)⟩ natural]
      exact (or_iff_right natural).symm

def Settings.oversized : String := "\x7b\"config_version\": 4294967297, \"account_id\": \"1\"\x7d"

theorem oversized_version_is_refused :
    said? oversized.toUTF8 = some (.object [("account_id", .string "1"),
        ("config_version", .natural 4294967297)]) ∧
      loadBytes (some oversized.toUTF8) =
        .error (.unusable "config_version 4294967297 is out of range") := by
  have parsed : Json.parse? oversized.toList = some (.object [("account_id", .string "1"),
      ("config_version", .natural 4294967297)]) := by cbv
  have said := (said?_toUTF8 oversized).trans parsed
  have refused := (version_refused_iff said).2.1 4294967297 rfl (by decide)
  exact ⟨said, refused⟩

def Settings.quotedVersion : String :=
  "\x7b\"account_id\": \"123456789012\", \"region\": \"eu-west-1\", \"config_version\": \"99\"\x7d"

theorem quoted_version_is_accepted :
    (∃ members, said? quotedVersion.toUTF8 = some (.object members) ∧
      members.lookup "config_version" = some (.string "99")) ∧
    loadBytes (some quotedVersion.toUTF8) = .ok (.of "123456789012" "eu-west-1") := by
  have parsed : Json.parse? quotedVersion.toList =
      some (.object [("account_id", .string "123456789012"), ("config_version", .string "99"),
        ("region", .string "eu-west-1")]) := by cbv
  have said := (said?_toUTF8 quotedVersion).trans parsed
  have loads : loadValue (.object [("account_id", .string "123456789012"),
      ("config_version", .string "99"), ("region", .string "eu-west-1")]) =
      .ok (.of "123456789012" "eu-west-1") := rfl
  exact ⟨⟨_, said, rfl⟩, (loadBytes_said said).trans loads⟩

end Registrar
