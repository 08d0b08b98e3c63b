import Attribution.Proofs.Archive
import Attribution.Proofs.Text.LetterCase
import Attribution.Proofs.Text.Split
import Mathlib.Logic.Relation

/-!
Which entries of an archive are taken for a module's license and manifest, said of their names. The
first of each kind is read. Every other entry may come or go, as long as these two stay the first of
their kinds.
-/

namespace Attribution

open Text

namespace Entry

/-- The name goes on behind the module's identity, as it is or in lower case. -/
def GoesOn (v : ModuleVersion) (rest : List Char) (e : Entry) : Prop :=
  ∃ start, (start = v.text.toList ∨ start = lower v.text.toList) ∧ e.name.toList = start ++ rest

/-- A file that lies directly in the module. -/
def IsTop (v : ModuleVersion) (e : Entry) : Prop :=
  ∃ file, file ≠ [] ∧ '/' ∉ file ∧ e.GoesOn v ('/' :: file)

/-- A license candidate: a file that lies directly in the module and has the name of a license. -/
def IsLicense (v : ModuleVersion) (e : Entry) : Prop :=
  e.isDirectory = false ∧ ∃ file, '/' ∉ file ∧
    lowerString (String.ofList file) ∈ licenseNames ∧ e.GoesOn v ('/' :: file)

/-- A manifest candidate. -/
def IsManifest (v : ModuleVersion) (e : Entry) : Prop :=
  e.isDirectory = false ∧ e.GoesOn v "/go.mod".toList

variable {v : ModuleVersion} {e : Entry} {rest file : List Char}

/-- The two forms of an identity do not start the same name, unless they are one. -/
theorem goesOn_iff : e.GoesOn v rest ↔ Archive.rest? (Archive.starts v) e.name = some rest := by
  unfold Archive.rest? Archive.starts
  refine ⟨?_, fun found => ?_⟩
  · rintro ⟨start, form, name⟩
    have here : after? start e.name.toList = some rest := after?_eq_some_iff.mpr name
    by_cases same : lower v.text.toList = v.text.toList
    · obtain rfl : start = v.text.toList := form.elim id fun h => h.trans same
      simp only [same, if_true, List.findSome?_cons, here]
    · simp only [same, if_false]
      obtain rfl | rfl := form
      · simp only [List.findSome?_cons, here]
      · have other : after? v.text.toList e.name.toList = none := by
          refine Option.eq_none_iff_forall_ne_some.mpr fun rest' found => ?_
          refine not_lower_prefix same ⟨rest', (after?_eq_some_iff.mp found).symm⟩ ?_
          exact ⟨rest, name.symm⟩
        simp only [List.findSome?_cons, other, here]
  · obtain ⟨start, form, here⟩ := List.exists_of_findSome?_eq_some found
    refine ⟨start, ?_, after?_eq_some_iff.mp here⟩
    dsimp only at form
    split at form
    · exact .inl (List.mem_singleton.mp form)
    · simpa using form

/-- A name goes on in one way only. -/
theorem GoesOn.unique (here : e.GoesOn v rest) (there : e.GoesOn v file) : rest = file :=
  Option.some.inj ((goesOn_iff.mp here).symm.trans (goesOn_iff.mp there))

/-- What lies deeper, or in a module whose identity only starts alike, does not lie directly in the
module. -/
theorem GoesOn.not_isTop (goes : e.GoesOn v rest)
    (astray : ∀ file, '/' ∉ file → rest ≠ '/' :: file) : ¬ e.IsTop v := by
  rintro ⟨file, -, flat, there⟩
  exact astray file flat (goes.unique there)

theorem IsLicense.isTop (h : e.IsLicense v) : e.IsTop v := by
  obtain ⟨-, file, flat, named, there⟩ := h
  refine ⟨file, ?_, flat, there⟩
  rintro rfl
  revert named
  decide

theorem IsManifest.isTop (h : e.IsManifest v) : e.IsTop v :=
  ⟨"go.mod".toList, by decide, by decide, h.2⟩

theorem isTopLicense_iff : Archive.isTopLicense rest = true ↔ ∃ file, '/' ∉ file ∧
    lowerString (String.ofList file) ∈ licenseNames ∧ rest = '/' :: file := by
  unfold Archive.isTopLicense
  split
  next file =>
    rw [Bool.and_eq_true, Bool.not_eq_true', isLicenseName, List.contains_iff_mem]
    refine ⟨fun ⟨flat, named⟩ => ⟨file, by simpa using flat, named, rfl⟩, ?_⟩
    rintro ⟨_, flat, named, ⟨⟩⟩
    exact ⟨by simpa using flat, named⟩
  next other => exact iff_of_false Bool.false_ne_true fun ⟨file, _, _, same⟩ => other file same

theorem isLicense_iff :
    e.IsLicense v ↔ Archive.holds (Archive.starts v) Archive.isTopLicense e = true := by
  simp only [IsLicense, goesOn_iff, Archive.holds, Bool.and_eq_true, Bool.not_eq_true']
  refine and_congr_right fun _ => ?_
  cases Archive.rest? (Archive.starts v) e.name with
  | none => simp
  | some rest => simp only [Option.some.injEq, Option.any_some, isTopLicense_iff]

theorem isManifest_iff :
    e.IsManifest v ↔ Archive.holds (Archive.starts v) Archive.isTopManifest e = true := by
  simp only [IsManifest, goesOn_iff, Archive.holds, Bool.and_eq_true, Bool.not_eq_true']
  refine and_congr_right fun _ => ?_
  cases Archive.rest? (Archive.starts v) e.name with
  | none => simp
  | some rest =>
      rw [Option.some.injEq, Option.any_some, Archive.isTopManifest]
      exact decide_eq_true_iff.symm

theorem isTop_iff : e.IsTop v ↔ ∃ rest ∈ Archive.rest? (Archive.starts v) e.name,
    rest.head? = some '/' ∧ rest.tail ≠ [] ∧ '/' ∉ rest.tail := by
  simp only [IsTop, goesOn_iff, Option.mem_def]
  refine ⟨fun ⟨file, named, flat, there⟩ => ⟨_, there, rfl, named, flat⟩, ?_⟩
  rintro ⟨rest, there, slash, named, flat⟩
  obtain ⟨file, rfl⟩ := List.head?_eq_some_iff.mp slash
  exact ⟨file, named, flat, there⟩

instance : DecidablePred (IsLicense v) := fun _ => decidable_of_iff' _ isLicense_iff

instance : DecidablePred (IsManifest v) := fun _ => decidable_of_iff' _ isManifest_iff

instance : DecidablePred (IsTop v) := fun _ => decidable_of_iff' _ isTop_iff

end Entry

namespace Archive

variable {v : ModuleVersion} {before after entries entries' : List Entry} {e : Entry}

/-- The entry that the license is read from. -/
def license? (v : ModuleVersion) (entries : List Entry) : Option Entry :=
  entries.find? fun e => e.IsLicense v

/-- The entry that the manifest is read from. -/
def manifest? (v : ModuleVersion) (entries : List Entry) : Option Entry :=
  entries.find? fun e => e.IsManifest v

/-- The first entry that is read though it is damaged. -/
def damaged? (v : ModuleVersion) (entries : List Entry) : Option Entry :=
  entries.find? fun e =>
    e.intact = false ∧ (license? v entries = some e ∨ manifest? v entries = some e)

theorem firstLicense?_eq : firstLicense? (starts v) entries = license? v entries := by
  simp only [firstLicense?, license?, Entry.isLicense_iff, Bool.decide_eq_true]

theorem firstManifest?_eq : firstManifest? (starts v) entries = manifest? v entries := by
  simp only [firstManifest?, manifest?, Entry.isManifest_iff, Bool.decide_eq_true]

theorem pick_append (starts : List (List Char)) (p : Pick) (first second : List Entry) :
    pick starts p (first ++ second) = (pick starts p first).bind fun q => pick starts q second := by
  induction first generalizing p with
  | nil => rfl
  | cons e rest ih =>
      rw [List.cons_append, pick, pick]
      cases pickEntry starts p e with
      | error fault => rfl
      | ok q => exact ih q

theorem license?_append :
    license? v (before ++ after) = (license? v before).or (license? v after) :=
  List.find?_append

theorem manifest?_append :
    manifest? v (before ++ after) = (manifest? v before).or (manifest? v after) :=
  List.find?_append

theorem mem_of_license? (first : license? v entries = some e) : e ∈ entries ∧ e.IsLicense v :=
  ⟨List.mem_of_find?_eq_some first, by simpa using List.find?_some first⟩

theorem mem_of_manifest? (first : manifest? v entries = some e) : e ∈ entries ∧ e.IsManifest v :=
  ⟨List.mem_of_find?_eq_some first, by simpa using List.find?_some first⟩

/-- A first match that is not among the entries in front of it stands behind none that match. -/
theorem find?_eq_none_of_fresh {test : Entry → Bool}
    (first : (before ++ e :: after).find? test = some e) (fresh : e ∉ before) :
    before.find? test = none := by
  rw [List.find?_append] at first
  cases earlier : before.find? test with
  | none => rfl
  | some f =>
      rw [earlier] at first
      cases first
      exact absurd (List.mem_of_find?_eq_some earlier) fresh

/-- Where no entry that is read is damaged, a search yields what is in those that are read. -/
theorem pick_of_whole (named : ∀ e ∈ entries, e.name ≠ "")
    (license : ∀ e, license? v entries = some e → e.intact = true)
    (manifest : ∀ e, manifest? v entries = some e → e.intact = true) :
    pick (starts v) ⟨none, none⟩ entries =
      .ok ⟨(license? v entries).map (·.data), (manifest? v entries).map (·.data)⟩ := by
  rw [← firstLicense?_eq] at license ⊢
  rw [← firstManifest?_eq] at manifest ⊢
  exact pick_eq_ok_iff.mpr ⟨named, fun _ => license, fun _ => manifest, rfl⟩

/-- Where all entries have names, a search of the archive stops at the first damaged entry that is
read, else it yields what is in the entries that are read. -/
theorem pick_starts (named : ∀ e ∈ entries, e.name ≠ "") :
    pick (starts v) ⟨none, none⟩ entries =
      match damaged? v entries with
      | some e => .error (.damagedEntry e.name)
      | none => .ok ⟨(license? v entries).map (·.data), (manifest? v entries).map (·.data)⟩ := by
  cases found : damaged? v entries with
  | none =>
      have whole : ∀ e ∈ entries, license? v entries = some e ∨ manifest? v entries = some e →
          e.intact = true := fun e mem read => by
        refine (Bool.not_eq_false _).mp fun torn => ?_
        exact List.find?_eq_none.mp found e mem (decide_eq_true ⟨torn, read⟩)
      exact pick_of_whole named (fun e first => whole e (mem_of_license? first).1 (.inl first))
        fun e first => whole e (mem_of_manifest? first).1 (.inr first)
  | some e =>
      obtain ⟨spoils, before, after, rfl, sound⟩ := List.find?_eq_some_iff_append.mp found
      obtain ⟨torn, read⟩ := of_decide_eq_true spoils
      have whole : ∀ f ∈ before, license? v (before ++ e :: after) = some f ∨
          manifest? v (before ++ e :: after) = some f → f.intact = true := fun f mem taken => by
        simpa [taken] using sound f mem
      have fresh : e ∉ before := fun mem => by
        rw [whole e mem read] at torn
        cases torn
      have earlier := @pick_of_whole v before
        (fun f mem => named f (List.mem_append_left _ mem))
        (fun f first => whole f (mem_of_license? first).1
          (.inl (by rw [license?_append, first, Option.some_or])))
        (fun f first => whole f (mem_of_manifest? first).1
          (.inr (by rw [manifest?_append, first, Option.some_or])))
      have known : e.name ≠ "" := named e (List.mem_append_right before List.mem_cons_self)
      rw [pick_append, earlier]
      simp only [Except.bind, pick, pickEntry_named known]
      obtain first | first := read
      · have unread : license? v before = none := find?_eq_none_of_fresh first fresh
        have holding := Entry.isLicense_iff.mp (mem_of_license? first).2
        simp [unread, holding, Entry.read, torn, Except.map]
      · have unread : manifest? v before = none := find?_eq_none_of_fresh first fresh
        have holding := Entry.isManifest_iff.mp (mem_of_manifest? first).2
        have other : ¬ holds (starts v) isTopLicense e := fun license => by
          simp [not_holds_of_holds license] at holding
        simp [unread, holding, other, Entry.read, torn, Except.map]

/-- One more entry in an archive. A further license candidate stands behind one that is there, and
so does a manifest candidate. -/
inductive Insertion (v : ModuleVersion) : List Entry → List Entry → Prop where
  | mk (before after : List Entry) (e : Entry) (named : e.name ≠ "")
      (license : e.IsLicense v → ∃ f ∈ before, f.IsLicense v)
      (manifest : e.IsManifest v → ∃ f ∈ before, f.IsManifest v) :
      Insertion v (before ++ after) (before ++ e :: after)

/-- What does not lie directly in the module may be put anywhere. -/
theorem Insertion.of_not_isTop (before after : List Entry) (named : e.name ≠ "")
    (astray : ¬ e.IsTop v) : Insertion v (before ++ after) (before ++ e :: after) :=
  .mk before after e named (fun license => absurd license.isTop astray)
    fun manifest => absurd manifest.isTop astray

/-- A search passes over an entry that was put in. -/
theorem Insertion.pick_eq (h : Insertion v entries entries') :
    pick (starts v) ⟨none, none⟩ entries' = pick (starts v) ⟨none, none⟩ entries := by
  obtain ⟨before, after, e, named, license, manifest⟩ := h
  rw [pick_append, pick_append]
  cases first : pick (starts v) ⟨none, none⟩ before with
  | error fault => rfl
  | ok q =>
      obtain ⟨-, -, -, rfl⟩ := pick_eq_ok_iff.mp first
      have later : ¬ (license? v before = none ∧ holds (starts v) isTopLicense e = true) := by
        rintro ⟨unread, holding⟩
        obtain ⟨f, mem, candidate⟩ := license (Entry.isLicense_iff.mpr holding)
        exact List.find?_eq_none.mp unread f mem (decide_eq_true candidate)
      have later' : ¬ (manifest? v before = none ∧ holds (starts v) isTopManifest e = true) := by
        rintro ⟨unread, holding⟩
        obtain ⟨f, mem, candidate⟩ := manifest (Entry.isManifest_iff.mpr holding)
        exact List.find?_eq_none.mp unread f mem (decide_eq_true candidate)
      simp only [Except.bind, pick, pickEntry_named named, firstLicense?_eq, firstManifest?_eq,
        Option.none_or, Option.isNone_map, Bool.and_eq_true, Option.isNone_iff_eq_none, later,
        later', if_false]

/-- Entries that are put in and taken out leave no trace in a search. -/
theorem pick_eq_of_eqvGen (h : Relation.EqvGen (Insertion v) entries entries') :
    pick (starts v) ⟨none, none⟩ entries' = pick (starts v) ⟨none, none⟩ entries := by
  induction h with
  | rel _ _ put => exact put.pick_eq
  | refl _ => rfl
  | symm _ _ _ ih => exact ih.symm
  | trans _ _ _ _ _ first second => exact second.trans first

end Archive

end Attribution
