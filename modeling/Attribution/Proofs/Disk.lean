import Attribution.Disk

/-!
Paths without links. Where names lead down through directories, with no link and no dot on the way,
a path stands for itself: both ways of looking names up come to the place that it spells.
-/

namespace Attribution

namespace Disk

/-- Names lead from a directory to what exists, with no link on the way. -/
def leads (d : Disk) : List String → List String → Bool
  | _, [] => true
  | base, name :: rest =>
    d.item? base == some .directory && !(["", ".", "..", "/"].contains name) &&
      Path.isSoundName name && decide (name.utf8ByteSize ≤ nameLimit) &&
      (match d.item? (base ++ [name]) with
        | none | some (.link _) => false
        | some _ => true) &&
      d.leads (base ++ [name]) rest

/-- A rooted path that stands for itself. -/
def plain (d : Disk) (names : List String) : Bool :=
  d.leads [] names && decide ((Path.absolute names).toString.utf8ByteSize ≤ pathLimit)

variable {d : Disk} {base names rest : List String} {name : String}

/-- What it takes to go one name further. -/
structure Further (d : Disk) (base : List String) (name : String) : Prop where
  directory : d.item? base = some .directory
  proper : name ≠ "" ∧ name ≠ "." ∧ name ≠ ".." ∧ name ≠ "/"
  sound : Path.isSoundName name = true
  short : name.utf8ByteSize ≤ nameLimit
  item : ∃ item, d.item? (base ++ [name]) = some item ∧ ∀ target, item ≠ .link target

theorem leads_cons (h : d.leads base (name :: rest) = true) :
    d.Further base name ∧ d.leads (base ++ [name]) rest = true := by
  simp only [leads, Bool.and_eq_true, beq_iff_eq, decide_eq_true_eq] at h
  obtain ⟨⟨⟨⟨⟨directory, proper⟩, sound⟩, short⟩, item⟩, onward⟩ := h
  refine ⟨⟨directory, by simpa using proper, sound, short, ?_⟩, onward⟩
  split at item
  · cases item
  · cases item
  next value other found => exact ⟨value, found, fun target link => other target link⟩

theorem follow_of_leads {links : Nat} {met : List (List String × Option (List String))}
    (h : d.leads base names = true) :
    d.follow links met base (names.map .part) = .ok (Path.absolute (base ++ names)) := by
  induction names generalizing base with
  | nil => rw [List.map_nil, follow, List.append_nil]
  | cons name rest ih =>
      obtain ⟨further, onward⟩ := leads_cons h
      obtain ⟨item, found, plain⟩ := further.item
      obtain ⟨named, here, up, -⟩ := further.proper
      have below := ih onward
      rw [List.append_assoc, List.singleton_append] at below
      rw [List.map_cons, follow]
      simp only [named, here, up, further.sound, found, decide_false, Bool.or_self, Bool.not_true,
        Bool.false_eq_true, if_false]
      cases item with
      | link target => exact absurd rfl (plain target)
      | file data => exact below
      | directory => exact below

theorem walkFrom_of_leads {lastMayMiss : Bool} {links : Nat} (h : d.leads base names = true) :
    d.walkFrom lastMayMiss links base names = .ok (base ++ names) := by
  induction names generalizing base with
  | nil => rw [walkFrom, List.append_nil]
  | cons name rest ih =>
      obtain ⟨further, onward⟩ := leads_cons h
      obtain ⟨item, found, plain⟩ := further.item
      obtain ⟨-, here, up, slash⟩ := further.proper
      have below := ih onward
      rw [List.append_assoc, List.singleton_append] at below
      have fits : ¬ nameLimit < name.utf8ByteSize := Nat.not_lt.mpr further.short
      have ends : rest ≠ ["/"] := by
        rintro rfl
        exact (leads_cons onward).1.proper.2.2.2 rfl
      rw [walkFrom]
      simp only [further.directory, here, up, slash, ends, fits, found, decide_false,
        Bool.and_false, Bool.or_self, Bool.false_eq_true, if_false]
      cases item with
      | link target => exact absurd rfl (plain target)
      | file data => exact below
      | directory => exact below

theorem sound_of_leads (h : d.leads base names = true) : names.all Path.isSoundName = true := by
  induction names generalizing base with
  | nil => rfl
  | cons name rest ih =>
      obtain ⟨further, onward⟩ := leads_cons h
      rw [List.all_cons, further.sound, ih onward, Bool.and_self]

theorem walkPath_of_plain {lastMayMiss : Bool} (h : d.plain names = true) :
    d.walkPath lastMayMiss (Path.absolute names) = .ok names := by
  obtain ⟨leads, short⟩ := Bool.and_eq_true_iff.mp h
  have fits : ¬ pathLimit < (Path.absolute names).toString.utf8ByteSize :=
    Nat.not_lt.mpr (of_decide_eq_true short)
  rw [walkPath, if_neg fits]
  exact walkFrom_of_leads leads

theorem walk_of_plain (h : d.plain names = true) : d.walk (Path.absolute names) = .ok names :=
  walkPath_of_plain h

theorem exists_of_plain (h : d.plain names = true) : d.exists? (Path.absolute names) = true := by
  rw [exists?, walk_of_plain h]

theorem resolve_of_plain (h : d.plain names = true) :
    d.resolve (Path.absolute names) = .ok (Path.absolute names) := by
  have leads := (Bool.and_eq_true_iff.mp h).1
  have followed : d.follow d.items.length [] [] ((d.place (Path.absolute names)).map .part) =
      .ok (Path.absolute names) := follow_of_leads leads
  have sound : (Path.absolute names).names.all Path.isSoundName = true := sound_of_leads leads
  rw [resolve, followed]
  simp only [Except.bind, sound, walk_of_plain h, Bool.not_true, Bool.false_eq_true, if_false]

/-- What stands below a directory is listed in order. -/
theorem list_of_plain (h : d.plain names = true) (directory : d.item? names = some .directory)
    (sorted : (d.namesBelow names).Pairwise fun a b => decide (¬ b < a) = true) :
    d.list (Path.absolute names) = .ok (d.namesBelow names) := by
  rw [list, walk_of_plain h]
  simp only [Except.bind, directory, List.mergeSort_of_pairwise sorted]

theorem isFile_of_plain (h : d.plain names = true) {item : Item} (found : d.item? names = some item) :
    d.isFile (Path.absolute names) = .ok (match item with | .file _ => true | _ => false) := by
  have sound : (Path.absolute names).names.all Path.isSoundName = true :=
    sound_of_leads (Bool.and_eq_true_iff.mp h).1
  simp only [isFile, sound, walk_of_plain h, found, Bool.not_true, Bool.false_eq_true, if_false]
  cases item <;> rfl

theorem read_of_plain (h : d.plain names = true) {data : Bytes}
    (found : d.item? names = some (.file data)) : d.read (Path.absolute names) = .ok data := by
  rw [read, walk_of_plain h]
  simp only [Except.bind, found]

/-- What is written over a file takes its place. -/
theorem write_of_plain (h : d.plain names = true) {old : Bytes}
    (found : d.item? names = some (.file old)) (data : Bytes) :
    d.write (Path.absolute names) data = .ok (d.put names (.file data)) := by
  rw [write, walkPath_of_plain h]
  simp only [Except.bind, found]

end Disk

end Attribution
