import Attribution.Proofs.Text.LetterCase
import Attribution.Proofs.Text.Split
import Attribution.Proxy

/-!
The addresses of archives. Capitals are marked, so that a text is read off its escaped form even where
letter case is lost, and distinct modules have distinct addresses.
-/

namespace Attribution.Proxy

open Text

variable {s t : List Char} {c : Char}

/-- A text in ASCII without the mark of a capital. -/
def Plain (s : List Char) : Prop := ∀ c ∈ s, c.toNat < 0x80 ∧ c ≠ '!'

instance (s : List Char) : Decidable (Plain s) := List.decidableBAll _ s

/-- Reads a marked letter as a capital. -/
def unescape : List Char → List Char
  | [] => []
  | '!' :: c :: rest => c.toUpper :: unescape rest
  | c :: rest => c :: unescape rest

theorem unescape_cons (unmarked : c ≠ '!') (s : List Char) :
    unescape (c :: s) = c :: unescape s :=
  unescape.eq_3 c s fun _ _ h => absurd h unmarked

private theorem small_capitals_ascii : ∀ n ∈ List.range' 0x41 26,
    lower [Char.ofNat n] = [(Char.ofNat n).toLower] ∧
      (Char.ofNat n).toLower.toUpper = Char.ofNat n ∧ (Char.ofNat n).toLower.toNat < 0x80 ∧
      isUpper (Char.ofNat n).toLower = false := by decide

/-- A capital in ASCII has one small letter, which tells the capital. -/
theorem exists_small (ascii : c.toNat < 0x80) (capital : isUpper c) :
    ∃ d, lower [c] = [d] ∧ d.toUpper = c ∧ d.toNat < 0x80 ∧ isUpper d = false := by
  rw [isUpper, if_pos ascii, Bool.and_eq_true, decide_eq_true_eq, decide_eq_true_eq] at capital
  have low : 0x41 ≤ c.toNat := capital.1
  have high : c.toNat ≤ 0x5a := capital.2
  have known := small_capitals_ascii c.toNat (List.mem_range'_1.mpr (by omega))
  rw [Char.ofNat_toNat] at known
  exact ⟨c.toLower, known⟩

/-- A letter stays as it is, or a small one that tells it stands behind a mark. -/
theorem escape_cases (s : List Char) (ascii : c.toNat < 0x80) :
    isUpper c = false ∧ escape (c :: s) = c :: escape s ∨
      ∃ d, escape (c :: s) = '!' :: d :: escape s ∧ isUpper c ∧ d.toUpper = c ∧ d.toNat < 0x80 ∧
        isUpper d = false := by
  rw [escape, List.flatMap_cons]
  cases capital : isUpper c with
  | false => exact .inl ⟨rfl, rfl⟩
  | true =>
      obtain ⟨d, small, told⟩ := exists_small ascii capital
      exact .inr ⟨d, by rw [if_pos rfl, small]; rfl, rfl, told⟩

/-- A text is read off its escaped form. -/
theorem unescape_escape (plain : Plain s) : unescape (escape s) = s := by
  induction s with
  | nil => rfl
  | cons c s ih =>
      obtain ⟨⟨ascii, unmarked⟩, rest⟩ := List.forall_mem_cons.mp plain
      obtain ⟨-, same⟩ | ⟨d, marked, -, told, -⟩ := escape_cases s ascii
      · rw [same, unescape_cons unmarked, ih rest]
      · rw [marked, unescape, told, ih rest]

/-- An escaped text has small letters only. -/
theorem small_escape (plain : Plain s) : ∀ c ∈ escape s, c.toNat < 0x80 ∧ isUpper c = false := by
  induction s with
  | nil => exact List.forall_mem_nil _
  | cons c s ih =>
      obtain ⟨⟨ascii, -⟩, rest⟩ := List.forall_mem_cons.mp plain
      obtain ⟨small, same⟩ | ⟨d, marked, -, -, small⟩ := escape_cases s ascii
      · rw [same]
        exact List.forall_mem_cons.mpr ⟨⟨ascii, small⟩, ih rest⟩
      · rw [marked]
        exact List.forall_mem_cons.mpr ⟨by decide, List.forall_mem_cons.mpr ⟨small, ih rest⟩⟩

theorem slash_not_mem_escape (plain : Plain s) (flat : '/' ∉ s) : '/' ∉ escape s := by
  induction s with
  | nil => exact flat
  | cons c s ih =>
      obtain ⟨⟨ascii, -⟩, rest⟩ := List.forall_mem_cons.mp plain
      obtain ⟨other, later⟩ := not_or.mp (mt List.mem_cons.mpr flat)
      obtain ⟨-, same⟩ | ⟨d, marked, capital, told, -⟩ := escape_cases s ascii
      · rw [same, List.mem_cons, not_or]
        exact ⟨other, ih rest later⟩
      · have letter : '/' ≠ d := by
          rintro rfl
          rw [← told] at capital
          revert capital
          decide
        rw [marked, List.mem_cons, List.mem_cons, not_or, not_or]
        exact ⟨by decide, letter, ih rest later⟩

theorem escape_inj (hs : Plain s) (ht : Plain t) (same : escape s = escape t) : s = t := by
  rw [← unescape_escape hs, same, unescape_escape ht]

/-- Without letter case, too, escaped texts tell what they come from. -/
theorem lower_escape_inj (hs : Plain s) (ht : Plain t)
    (same : lower (escape s) = lower (escape t)) : s = t := by
  rw [lower_eq_self (small_escape hs), lower_eq_self (small_escape ht)] at same
  exact escape_inj hs ht same

/-- A module version that the address of its archive tells. -/
structure Addressable (v : ModuleVersion) : Prop where
  path : Plain v.path.toList
  version : Plain v.version.toList
  flat : '/' ∉ v.version.toList

theorem toList_archiveUrl (base : String) (v : ModuleVersion) :
    (archiveUrl base v).toList = withoutSlashes base.toList ++ '/' ::
      (escape v.path.toList ++ ['/', '@', 'v'] ++ '/' :: escape v.version.toList ++
        ".zip".toList) := by
  simp only [archiveUrl, escapeString, String.toList_append, String.toList_ofList, List.append_assoc]
  rfl

/-- The version stands behind the last slash, and the path before it. -/
theorem archiveUrl_inj {base : String} {v w : ModuleVersion} (hv : Addressable v)
    (hw : Addressable w) (same : archiveUrl base v = archiveUrl base w) : v = w := by
  have parts := congrArg String.toList same
  rw [toList_archiveUrl, toList_archiveUrl] at parts
  have behind := List.append_cancel_right (List.cons.inj (List.append_cancel_left parts)).2
  -- The path may hold slashes and even `/@v/`, the version none.
  obtain ⟨path, version⟩ := append_cons_inj_last (slash_not_mem_escape hv.version hv.flat)
    (slash_not_mem_escape hw.version hw.flat) behind
  have path := escape_inj hv.path hw.path (List.append_cancel_right path)
  have version := escape_inj hv.version hw.version version
  exact congr (congrArg ModuleVersion.mk (String.toList_inj.mp path)) (String.toList_inj.mp version)

/-- A text is read off its escaped form, which has no capitals, so that distinct texts have escaped
forms that differ in more than letter case. Distinct modules have distinct addresses on a proxy. -/
theorem addresses_apart :
    (∀ s, Plain s → unescape (escape s) = s ∧ ∀ c ∈ escape s, isUpper c = false) ∧
    (∀ s t, Plain s → Plain t → s ≠ t → lower (escape s) ≠ lower (escape t)) ∧
    ∀ (base : String) (v w : ModuleVersion), Addressable v → Addressable w →
      archiveUrl base v = archiveUrl base w → v = w :=
  ⟨fun _ plain => ⟨unescape_escape plain, fun c hc => (small_escape plain c hc).2⟩,
    fun _ _ hs ht => mt (lower_escape_inj hs ht),
    fun _ _ _ hv hw => archiveUrl_inj hv hw⟩

/-- Two modules whose names differ in letter case alone. -/
theorem addresses_apart_capitals :
    let shout : ModuleVersion := ⟨"github.com/BurntSushi/toml", "v1.0.0-RC1"⟩
    let speak : ModuleVersion := ⟨"github.com/burntsushi/toml", "v1.0.0-rc1"⟩
    lower shout.path.toList = lower speak.path.toList ∧
    Addressable shout ∧ Addressable speak ∧
    unescape (escape shout.path.toList) = shout.path.toList ∧
    lower (escape shout.path.toList) ≠ lower (escape speak.path.toList) ∧
    archiveUrl "https://proxy.golang.org/" shout ≠ archiveUrl "https://proxy.golang.org/" speak := by
  intro shout speak
  have hs : Addressable shout := ⟨by decide, by decide, by decide⟩
  have ht : Addressable speak := ⟨by decide, by decide, by decide⟩
  obtain ⟨told, apart, addressed⟩ := addresses_apart
  refine ⟨by decide, hs, ht, (told _ hs.path).1, apart _ _ hs.path ht.path (by decide), fun same => ?_⟩
  exact absurd (addressed _ _ _ hs ht same) (by decide)

end Attribution.Proxy
