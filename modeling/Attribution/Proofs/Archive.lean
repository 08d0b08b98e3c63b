import Attribution.Archive
import Mathlib.Data.List.Basic

/-!
What is taken out of an archive: the first entry that holds a license and the first that holds a
manifest. These two are read and no other, so only damage to one of them is noticed.
-/

namespace Attribution

/-- Whether an entry is a directory. -/
def Entry.isDirectory (e : Entry) : Bool := e.name.toList.getLast? == some '/'

namespace Archive

/-- Whether an entry is a file of the module whose place in it passes a test. -/
def holds (starts : List (List Char)) (test : List Char → Bool) (e : Entry) : Bool :=
  !e.isDirectory && (rest? starts e.name).any test

/-- The entry that the license is read from. -/
def firstLicense? (starts : List (List Char)) (entries : List Entry) : Option Entry :=
  entries.find? (holds starts isTopLicense)

/-- The entry that the manifest is read from. -/
def firstManifest? (starts : List (List Char)) (entries : List Entry) : Option Entry :=
  entries.find? (holds starts isTopManifest)

/-- An entry has no name, or one that is read is damaged. -/
def Spoiled (starts : List (List Char)) (entries : List Entry) : Prop :=
  (∃ e ∈ entries, e.name = "") ∨ (∃ e ∈ firstLicense? starts entries, e.intact = false) ∨
    ∃ e ∈ firstManifest? starts entries, e.intact = false

instance (starts : List (List Char)) (entries : List Entry) : Decidable (Spoiled starts entries) :=
  inferInstanceAs (Decidable (_ ∨ _ ∨ _))

section

variable {starts : List (List Char)} {p q : Pick} {e : Entry} {entries : List Entry}

/-- The manifest is no license. -/
theorem isTopLicense_of_isTopManifest {rest : List Char} (manifest : isTopManifest rest) :
    isTopLicense rest = false := by
  rw [of_decide_eq_true manifest]
  decide +kernel

theorem not_holds_of_holds (license : holds starts isTopLicense e) :
    holds starts isTopManifest e = false := by
  unfold holds at license ⊢
  cases place : rest? starts e.name with
  | none => simp
  | some rest =>
      rw [place] at license
      have top : isTopLicense rest := (Bool.and_eq_true_iff.mp license).2
      have other : isTopManifest rest = false := by
        by_contra manifest
        rw [isTopLicense_of_isTopManifest (Bool.not_eq_false _ ▸ manifest)] at top
        cases top
      simp [other]

theorem pickEntry_unnamed (unnamed : e.name = "") :
    pickEntry starts p e = .error .unnamedEntry := by
  rw [pickEntry, unnamed]
  rfl

theorem pickEntry_named (named : e.name ≠ "") : pickEntry starts p e =
    if p.license.isNone && holds starts isTopLicense e then
      (Entry.read e).map fun data => { p with license := some data }
    else if p.manifest.isNone && holds starts isTopManifest e then
      (Entry.read e).map fun data => { p with manifest := some data }
    else .ok p := by
  unfold pickEntry holds Entry.isDirectory
  cases ending : e.name.toList.getLast? with
  | none =>
      have empty : e.name.toList = [] := List.getLast?_eq_none_iff.mp ending
      exact absurd (String.toList_eq_nil_iff.mp empty) named
  | some last =>
      by_cases directory : last = '/'
      · simp [directory]
      · cases rest? starts e.name <;> simp [directory]

/-- A search succeeds if every entry has a name and the two that are read, unless something was read
before, are intact; it yields what is in these. -/
theorem pick_eq_ok_iff : pick starts p entries = .ok q ↔
    (∀ e ∈ entries, e.name ≠ "") ∧
    (p.license = none → ∀ e ∈ firstLicense? starts entries, e.intact) ∧
    (p.manifest = none → ∀ e ∈ firstManifest? starts entries, e.intact) ∧
    q = ⟨p.license.or ((firstLicense? starts entries).map (·.data)),
      p.manifest.or ((firstManifest? starts entries).map (·.data))⟩ := by
  unfold firstLicense? firstManifest?
  induction entries generalizing p with
  | nil => simpa [pick] using eq_comm
  | cons e rest ih =>
      rw [pick]
      by_cases named : e.name = ""
      · rw [pickEntry_unnamed named]
        simp [Except.bind, named]
      · rw [pickEntry_named named]
        by_cases first : p.license = none ∧ holds starts isTopLicense e
        · obtain ⟨unread, holding⟩ := first
          have other : ¬ holds starts isTopManifest e := by simp [not_holds_of_holds holding]
          rw [List.find?_cons_of_pos holding, List.find?_cons_of_neg other]
          cases whole : e.intact with
          | false => simp [Entry.read, whole, unread, holding, Except.map, Except.bind]
          | true => simp [Entry.read, whole, unread, holding, Except.map, Except.bind, named, ih]
        · rw [if_neg (by simpa using first)]
          by_cases second : p.manifest = none ∧ holds starts isTopManifest e
          · obtain ⟨unread, holding⟩ := second
            have other : ¬ holds starts isTopLicense e := fun license => by
              simp [not_holds_of_holds license] at holding
            rw [List.find?_cons_of_pos holding, List.find?_cons_of_neg other]
            cases whole : e.intact with
            | false => simp [Entry.read, whole, unread, holding, Except.map, Except.bind]
            | true => simp [Entry.read, whole, unread, holding, Except.map, Except.bind, named, ih]
          · -- What is sought still is not here.
            have license (unread : p.license = none) :
                (e :: rest).find? (holds starts isTopLicense) =
                  rest.find? (holds starts isTopLicense) :=
              List.find?_cons_of_neg fun holding => first ⟨unread, holding⟩
            have manifest (unread : p.manifest = none) :
                (e :: rest).find? (holds starts isTopManifest) =
                  rest.find? (holds starts isTopManifest) :=
              List.find?_cons_of_neg fun holding => second ⟨unread, holding⟩
            rw [if_neg (by simpa using second), Except.bind, ih]
            cases read : p.license <;> cases read' : p.manifest <;>
              simp [named, license, manifest, read, read']

/-- Unless an archive is spoiled, a search of it yields what is in the two entries. -/
theorem pick_of_sound (sound : ¬ Spoiled starts entries) :
    pick starts ⟨none, none⟩ entries =
      .ok ⟨(firstLicense? starts entries).map (·.data),
        (firstManifest? starts entries).map (·.data)⟩ := by
  rw [Spoiled, not_or, not_or] at sound
  obtain ⟨named, license, manifest⟩ := sound
  refine pick_eq_ok_iff.mpr
    ⟨fun e he unnamed => named ⟨e, he, unnamed⟩, fun _ e he => ?_, fun _ e he => ?_, rfl⟩
  · exact Bool.not_eq_false _ ▸ fun damaged => license ⟨e, he, damaged⟩
  · exact Bool.not_eq_false _ ▸ fun damaged => manifest ⟨e, he, damaged⟩

theorem exists_pick_error (spoiled : Spoiled starts entries) :
    ∃ fault, pick starts ⟨none, none⟩ entries = .error fault := by
  cases result : pick starts ⟨none, none⟩ entries with
  | error fault => exact ⟨fault, rfl⟩
  | ok q =>
      obtain ⟨named, license, manifest, -⟩ := pick_eq_ok_iff.mp result
      obtain ⟨e, he, unnamed⟩ | ⟨e, he, damaged⟩ | ⟨e, he, damaged⟩ := spoiled
      · exact absurd unnamed (named e he)
      · rw [license rfl e he] at damaged
        cases damaged
      · rw [manifest rfl e he] at damaged
        cases damaged

end

end Archive

end Attribution
