import Attribution.CommandLine
import Attribution.Proofs.Path

/-!
The steps of a command, and what they do to the disk. Every step before the writing of a report leaves
the disk as it is. Behind that nothing can fail but the notice of it, which a path without an opening
bracket cannot spoil, and the writing itself does not stop halfway unless the report has no bytes.
-/

namespace Attribution.CommandLine

open Text

namespace Step

variable {α β : Type} {x : Step α} {f : α → Step β} {s t : Screen} {b : β} {c : Console}
  {text : String}

/-- How a step ends, and what has been done then. -/
def on (x : Step α) (s : Screen) : Except Unit α × Screen := x.run.run s

theorem on_bind (x : Step α) (f : α → Step β) (s : Screen) :
    (x >>= f).on s =
      match x.on s with
      | (.ok a, s) => (f a).on s
      | (.error e, s) => (.error e, s) := by
  simp only [on, ExceptT.run_bind, StateT.run_bind]
  rcases x.run.run s with ⟨_ | a, t⟩ <;> rfl

theorem on_get (s : Screen) : (get : Step Screen).on s = (.ok s, s) := rfl

/-- Of steps one after the other, the first ends both in failure, or the end is that of the second. -/
theorem bind_cases {r : Except Unit β} (h : (x >>= f).on s = (r, t)) :
    (∃ e, x.on s = (.error e, t) ∧ r = .error e) ∨
      ∃ a u, x.on s = (.ok a, u) ∧ (f a).on u = (r, t) := by
  rw [on_bind] at h
  split at h
  next a u first => exact .inr ⟨a, u, first, h⟩
  next e u first => cases h; exact .inl ⟨e, first, rfl⟩

theorem of_bind_ok (h : (x >>= f).on s = (.ok b, t)) :
    ∃ a u, x.on s = (.ok a, u) ∧ (f a).on u = (.ok b, t) := by
  obtain ⟨e, -, failed⟩ | both := bind_cases h
  · cases failed
  · exact both

/-- A step that leaves the disk as it is. -/
def Keeps (x : Step α) : Prop := ∀ s, (x.on s).2.disk = s.disk

/-- A step that leaves the disk as it is unless it succeeds. -/
def KeepsOnFailure (x : Step α) : Prop := ∀ s e t, x.on s = (.error e, t) → t.disk = s.disk

/-- A step that cannot fail. -/
def Succeeds (x : Step α) : Prop := ∀ s, ∃ a t, x.on s = (.ok a, t)

theorem keeps_pure (a : α) : Keeps (pure a : Step α) := fun _ => rfl

theorem keeps_stop : Keeps (stop : Step α) := fun _ => rfl

theorem Keeps.bind (first : x.Keeps) (next : ∀ a, (f a).Keeps) : (x >>= f).Keeps := by
  intro s
  have kept := first s
  rw [on_bind]
  rcases hx : x.on s with ⟨_ | a, t⟩ <;> rw [hx] at kept
  · exact kept
  · exact (next a t).trans kept

theorem Keeps.disk {r : Except Unit α} (h : x.Keeps) (ended : x.on s = (r, t)) :
    t.disk = s.disk :=
  (congrArg (·.2.disk) ended).symm.trans (h s)

theorem Keeps.onFailure (h : x.Keeps) : x.KeepsOnFailure := fun _ _ _ ended => h.disk ended

theorem KeepsOnFailure.bind (first : x.KeepsOnFailure) (next : ∀ a, (f a).Succeeds) :
    (x >>= f).KeepsOnFailure := by
  intro s e t ended
  rw [on_bind] at ended
  rcases hx : x.on s with ⟨_ | a, u⟩ <;> rw [hx] at ended
  · cases ended; exact first s e t hx
  · obtain ⟨b, v, done⟩ := next a u
    cases done.symm.trans ended

/-- What becomes of a step that comes to a value or has none. -/
def given (s : Screen) : Option α → Except Unit α × Screen
  | none => (.error (), s)
  | some a => (.ok a, s)

theorem of_given_ok {value : Option α} {a : α} (h : given s value = (.ok a, t)) :
    value = some a ∧ t = s := by
  cases value with
  | none => cases h
  | some b => cases h; exact ⟨rfl, rfl⟩

theorem keeps_of_given {value : Screen → Option α} (h : ∀ s, x.on s = given s (value s)) :
    x.Keeps := by
  intro s
  rw [h]
  cases value s <;> rfl

theorem on_layOut (c : Console) (text : String) (s : Screen) :
    (layOut c text).on s = given s (c text) := by
  unfold layOut
  cases c text <;> rfl

theorem keeps_layOut : (layOut c text).Keeps := keeps_of_given (on_layOut c text)

theorem keeps_print : (print c text).Keeps := keeps_layOut.bind fun _ _ => rfl

theorem keeps_printError : (printError c text).Keeps := keeps_layOut.bind fun _ _ => rfl

theorem keeps_forM {items : List β} {each : β → Step Unit} (h : ∀ b, (each b).Keeps) :
    (items.forM each).Keeps := by
  induction items with
  | nil => exact keeps_pure ()
  | cons b rest ih => exact (h b).bind fun _ => ih

theorem print_succeeds (shown : (c text).isSome) : (print c text).Succeeds := by
  obtain ⟨lines, laidOut⟩ := Option.isSome_iff_exists.mp shown
  intro s
  rw [print, on_bind, on_layOut, laidOut]
  exact ⟨_, _, rfl⟩

end Step

open Step

/-- The text of a file, none where there is none to read. -/
def textAt? (d : Disk) (path : String) : Option (List Char) :=
  match d.read (Path.ofString path) with
  | .error _ => none
  | .ok data =>
    match Utf8.decode data with
    | .error _ => none
    | .ok text => some (unifyLineEnds text)

/-- The header that is chosen for a report. -/
def headerAt? (d : Disk) : Option String → Option String
  | none => some Report.defaultHeader
  | some path => (textAt? d path).map String.ofList

/-- How the template that is chosen for a report is filled. -/
def templateAt? (engine : Report.Engine) (d : Disk) :
    Option String → Option (Report.Document → Report.Filling)
  | none => some fun doc => .text (Report.standard.render doc)
  | some path => engine d path

theorem on_readText (path : String) (s : Screen) :
    (readText path).on s = given s (textAt? s.disk path) := by
  rw [readText, on_bind, on_get, textAt?]
  simp only
  cases s.disk.read (Path.ofString path) with
  | error refusal => rfl
  | ok data =>
      simp only
      cases Utf8.decode data <;> rfl

theorem on_readHeader (path : Option String) (s : Screen) :
    (readHeader path).on s = given s (headerAt? s.disk path) := by
  cases path with
  | none => rfl
  | some path =>
      rw [readHeader, on_bind, on_readText, headerAt?]
      cases textAt? s.disk path <;> rfl

theorem on_loadTemplate (engine : Report.Engine) (path : Option String) (s : Screen) :
    (loadTemplate engine path).on s = given s (templateAt? engine s.disk path) := by
  cases path with
  | none => rfl
  | some path =>
      rw [loadTemplate, on_bind, on_get, templateAt?]
      simp only
      cases engine s.disk path <;> rfl

variable {σ : Type} {env : Environment σ} {c : Console}

theorem keeps_treeOrStop (c : Console) (built : Except BuildError Tree) :
    (treeOrStop c built).Keeps := by
  cases built with
  | ok tree => exact keeps_pure tree
  | error e =>
      unfold treeOrStop
      simp only
      split
      · exact keeps_printError.bind fun _ => keeps_stop
      · exact keeps_stop

theorem of_treeOrStop_ok {built : Except BuildError Tree} {tree : Tree} {s t : Screen}
    (h : (treeOrStop c built).on s = (.ok tree, t)) : built = .ok tree ∧ t = s := by
  cases built with
  | ok found => cases h; exact ⟨rfl, rfl⟩
  | error e =>
      unfold treeOrStop at h
      simp only at h
      split at h
      · obtain ⟨_, u, _, stopped⟩ := of_bind_ok h
        cases stopped
      · cases h

theorem keeps_summarize (c : Console) (tree : Tree) : (summarize c tree).Keeps := by
  refine keeps_print.bind fun _ => ?_
  simp only
  split
  · exact keeps_pure _
  · exact keeps_print.bind fun _ => keeps_forM fun _ => keeps_print

theorem keeps_refuse {α : Type} {notice : String} : (refuse c notice : Step α).Keeps :=
  keeps_printError.bind fun _ => keeps_stop

theorem refuse_ne_ok {α : Type} {notice : String} {a : α} {s t : Screen} :
    (refuse c notice).on s ≠ (.ok a, t) := by
  intro h
  obtain ⟨_, u, _, stopped⟩ := of_bind_ok h
  cases stopped

theorem on_writeFile (c : Console) (path : Path) (data : Bytes) (s : Screen) :
    (writeFile c path data).on s =
      match s.disk.write path data with
      | .ok disk => (.ok (), { s with disk })
      | .error refusal => (refuse c (refusal.message path)).on s := by
  rw [writeFile, on_bind, on_get]
  simp only
  cases s.disk.write path data <;> rfl

theorem writeFile_onFailure (path : Path) (data : Bytes) :
    (writeFile c path data).KeepsOnFailure := by
  intro s e t ended
  rw [on_writeFile] at ended
  cases written : s.disk.write path data with
  | ok disk => rw [written] at ended; cases ended
  | error refusal => rw [written] at ended; exact keeps_refuse.onFailure s e t ended

theorem write_of_writeFile_ok {path : Path} {data : Bytes} {s t : Screen}
    (h : (writeFile c path data).on s = (.ok (), t)) : s.disk.write path data = .ok t.disk := by
  rw [on_writeFile] at h
  cases written : s.disk.write path data with
  | ok disk => rw [written] at h; cases h; rfl
  | error refusal => rw [written] at h; exact absurd h refuse_ne_ok

/-- A report that has bytes is written as a whole or not at all. -/
theorem writeReport_onFailure (path : Path) {filling : Report.Filling} (whole : filling ≠ .torn) :
    (writeReport c path filling).KeepsOnFailure := by
  cases filling with
  | text s => exact writeFile_onFailure path _
  | torn => exact absurd rfl whole
  | failed notice =>
      cases notice with
      | none => exact keeps_stop.onFailure
      | some notice => exact keeps_refuse.onFailure

theorem write_of_writeReport_ok {path : Path} {filling : Report.Filling} {s t : Screen}
    (h : (writeReport c path filling).on s = (.ok (), t)) :
    ∃ text, filling = .text text ∧ s.disk.write path (Utf8.encode text) = .ok t.disk := by
  cases filling with
  | text text => exact ⟨text, rfl, write_of_writeFile_ok h⟩
  | torn =>
      obtain ⟨_, u, _, stopped⟩ := of_bind_ok h
      cases stopped
  | failed notice =>
      cases notice with
      | none => cases h
      | some notice => exact absurd h refuse_ne_ok

/-- A report without bytes leaves its file empty. -/
theorem on_writeReport_torn {path : Path} {s : Screen} {disk : Disk}
    (emptied : s.disk.write path [] = .ok disk) :
    (writeReport c path .torn).on s = (.error (), { s with disk }) := by
  rw [writeReport, on_bind, on_writeFile, emptied]
  rfl

/-- A terminal shows the notice that a report was written for every path without an opening bracket,
since there are no marks in it then but those around the word in front. -/
def Console.Notices (c : Console) : Prop :=
  ∀ path : String, '[' ∉ path.toList → (c ("[green]Generated:[/green] " ++ path)).isSome

theorem notice_succeeds {output : String} (notices : c.Notices) (plain : '[' ∉ output.toList) :
    (print c ("[green]Generated:[/green] " ++ (Path.ofString output).toString)).Succeeds := by
  refine print_succeeds (notices _ fun h => ?_)
  exact (Path.mem_toString_ofString h).elim plain (by decide)

/-- What a report on a tree is filled to, none where its header or its template cannot be had. -/
def fillingAt? (env : Environment σ) (d : Disk) (o : Options) (tree : Tree) :
    Option Report.Filling :=
  (headerAt? d o.header).bind fun header =>
    (templateAt? env.engine d o.template).map fun fill =>
      fill (Report.document header env.today tree)

theorem on_fillReport (env : Environment σ) (o : Options) (tree : Tree) (s : Screen) :
    (fillReport env o tree).on s = given s (fillingAt? env s.disk o tree) := by
  rw [fillReport, on_bind, on_readHeader, fillingAt?]
  cases headerAt? s.disk o.header with
  | none => rfl
  | some header =>
      simp only [given]
      rw [on_bind, on_loadTemplate]
      cases templateAt? env.engine s.disk o.template <;> rfl

theorem keeps_fillReport (env : Environment σ) (o : Options) (tree : Tree) :
    (fillReport env o tree).Keeps := keeps_of_given (on_fillReport env o tree)

variable {o : Options} {tree : Tree} {s t : Screen} {disk : Disk}

/-- The end of a command that writes a report: the report is written, and this is told. -/
def conclude (env : Environment σ) (o : Options) (filling : Report.Filling) : Step Unit := do
  writeReport env.console (Path.ofString o.output) filling
  print env.console ("[green]Generated:[/green] " ++ (Path.ofString o.output).toString)

theorem conclude_onFailure {filling : Report.Filling} (notices : env.console.Notices)
    (plain : '[' ∉ o.output.toList) (whole : filling ≠ .torn) :
    (conclude env o filling).KeepsOnFailure :=
  (writeReport_onFailure _ whole).bind fun _ => notice_succeeds notices plain

theorem write_of_conclude_ok {filling : Report.Filling}
    (h : (conclude env o filling).on s = (.ok (), t)) :
    ∃ text, filling = .text text ∧
      s.disk.write (Path.ofString o.output) (Utf8.encode text) = .ok t.disk := by
  obtain ⟨_, u, wrote, told⟩ := of_bind_ok h
  rw [show t.disk = u.disk from keeps_print.disk told]
  exact write_of_writeReport_ok wrote

/-- A command stops with the disk as it was, or comes to its end with a report that is filled. -/
theorem gen_cases {built : Except BuildError Tree} {r : Except Unit Unit}
    (h : (gen env o built).on s = (r, t)) :
    (r = .error () ∧ t.disk = s.disk) ∨
      ∃ tree filling u, built = .ok tree ∧ fillingAt? env s.disk o tree = some filling ∧
        u.disk = s.disk ∧ (conclude env o filling).on u = (r, t) := by
  -- Each step up to the filling keeps the disk, so a command that ends there is the first case.
  obtain ⟨e, stopped, rfl⟩ | ⟨tree, s₁, stood, rest1⟩ := bind_cases h
  · exact .inl ⟨rfl, (keeps_treeOrStop env.console built).disk stopped⟩
  obtain ⟨tree_eq, rfl⟩ := of_treeOrStop_ok stood
  obtain ⟨e, stopped, rfl⟩ | ⟨_, s₂, told, rest2⟩ := bind_cases rest1
  · exact .inl ⟨rfl, (keeps_summarize env.console tree).disk stopped⟩
  have kept : s₂.disk = s₁.disk := (keeps_summarize env.console tree).disk told
  obtain ⟨e, stopped, rfl⟩ | ⟨filling, s₃, filled, rest3⟩ := bind_cases rest2
  · exact .inl ⟨rfl, ((keeps_fillReport env o tree).disk stopped).trans kept⟩
  rw [on_fillReport, kept] at filled
  obtain ⟨filling_eq, rfl⟩ := of_given_ok filled
  exact .inr ⟨tree, filling, s₃, tree_eq, filling_eq, kept, rest3⟩

/-- Whatever ends the command before its end ends it before the report is written, if the report has
bytes. -/
theorem gen_onFailure {built : Except BuildError Tree} (notices : env.console.Notices)
    (plain : '[' ∉ o.output.toList)
    (whole : ∀ tree, built = .ok tree → fillingAt? env s.disk o tree ≠ some .torn) {e : Unit}
    (failed : (gen env o built).on s = (.error e, t)) : t.disk = s.disk := by
  obtain ⟨-, kept⟩ | ⟨tree, filling, u, tree_eq, filled, kept, rest⟩ := gen_cases failed
  · exact kept
  have bytes : filling ≠ .torn := by
    rintro rfl
    exact whole tree tree_eq filled
  exact (conclude_onFailure notices plain bytes _ _ _ rest).trans kept

/-- A command that comes to its end has written the report on a tree. -/
theorem written_of_gen {built : Except BuildError Tree}
    (h : (gen env o built).on s = (.ok (), t)) :
    ∃ tree text, built = .ok tree ∧ fillingAt? env s.disk o tree = some (.text text) ∧
      s.disk.write (Path.ofString o.output) (Utf8.encode text) = .ok t.disk := by
  obtain ⟨stopped, -⟩ | ⟨tree, filling, u, tree_eq, filled, kept, rest⟩ := gen_cases h
  · cases stopped
  obtain ⟨text, rfl, written⟩ := write_of_conclude_ok rest
  rw [kept] at written
  exact ⟨tree, text, tree_eq, filled, written⟩

theorem summarize_succeeds {c : Console}
    (shown : (c ("Found [bold]" ++ toString tree.modules.length ++ "[/bold] modules")).isSome)
    (known : tree.modules.filter (·.licenseName = some License.unknownName) = []) :
    (summarize c tree).Succeeds := by
  intro s
  obtain ⟨_, t, done⟩ := print_succeeds shown s
  rw [summarize, on_bind, done, known]
  exact ⟨(), t, rfl⟩

/-- A command that can fill its report goes on to write it. -/
theorem on_gen_filled {filling : Report.Filling}
    (summarized : (summarize env.console tree).Succeeds)
    (filled : fillingAt? env s.disk o tree = some filling) : ∃ u : Screen, u.disk = s.disk ∧
      (gen env o (.ok tree)).on s = (conclude env o filling).on u := by
  obtain ⟨_, u, told⟩ := summarized s
  have kept : u.disk = s.disk := (keeps_summarize env.console tree).disk told
  have treed : (treeOrStop env.console (.ok tree)).on s = (.ok tree, s) := rfl
  refine ⟨u, kept, ?_⟩
  rw [gen, on_bind, treed]
  simp only
  rw [on_bind, told]
  simp only
  rw [on_bind, on_fillReport, kept, filled]
  rfl

/-- The command comes to its end where its report has bytes and can be written. -/
theorem gen_succeeds {text : List Char} (notices : env.console.Notices)
    (plain : '[' ∉ o.output.toList) (summarized : (summarize env.console tree).Succeeds)
    (filled : fillingAt? env s.disk o tree = some (.text text))
    (written : s.disk.write (Path.ofString o.output) (Utf8.encode text) = .ok disk) :
    ∃ t, (gen env o (.ok tree)).on s = (.ok (), t) := by
  obtain ⟨u, kept, same⟩ := on_gen_filled summarized filled
  obtain ⟨_, t, noticed⟩ := notice_succeeds notices plain { u with disk }
  refine ⟨t, ?_⟩
  rw [same, conclude, on_bind, writeReport, on_writeFile, kept, written]
  exact noticed

/-- A report without bytes ends the command, and its file is empty then. -/
theorem gen_torn (summarized : (summarize env.console tree).Succeeds)
    (filled : fillingAt? env s.disk o tree = some .torn)
    (emptied : s.disk.write (Path.ofString o.output) [] = .ok disk) :
    ∃ t, (gen env o (.ok tree)).on s = (.error (), t) ∧ t.disk = disk := by
  obtain ⟨u, kept, same⟩ := on_gen_filled summarized filled
  rw [← kept] at emptied
  refine ⟨{ u with disk }, ?_, rfl⟩
  rw [same, conclude, on_bind, on_writeReport_torn emptied]

end Attribution.CommandLine
