import Attribution.Proofs.Download.Attempt

/-!
What a download does on the wire: which requests it makes, how long it waits between them, and that
it never holds two responses at a time.
-/

namespace Attribution.Download

open Text

variable {σ : Type}

/-- The addresses that were asked, in order. -/
def requests (events : List Event) : List String :=
  events.filterMap fun
    | .get url => some url
    | _ => none

/-- The delays that were waited for, in order. -/
def sleeps (events : List Event) : List Rat :=
  events.filterMap fun
    | .sleep seconds => some seconds
    | _ => none

/-- Whether a response came. -/
def Reply.isResponse : Reply → Bool
  | .failed _ => false
  | .response _ => true

/-- After so many requests, every response is released once, right after it came or after its body
was read, and before anything else happens. Where none came, none is released. -/
def Tidy (reply : Nat → Reply) : Nat → List Event → Prop
  | _, [] => True
  | n, .sleep _ :: rest => Tidy reply n rest
  | n, .get _ :: .release :: rest => (reply n).isResponse ∧ Tidy reply (n + 1) rest
  | n, .get _ :: .read :: .release :: rest => (reply n).isResponse ∧ Tidy reply (n + 1) rest
  | n, .get _ :: rest => (reply n).isResponse = false ∧ Tidy reply (n + 1) rest
  | _, .read :: _ => False
  | _, .release :: _ => False

section

variable (url : String) (pause : Nat → Rat) (n : Nat)

theorem requests_pauses : requests (pauses url pause n) = List.replicate n url := by
  induction n with
  | zero => rfl
  | succ n ih =>
      rw [pauses_succ, requests, List.filterMap_append, ← requests, ih, List.replicate_succ']
      rfl

theorem sleeps_pauses : sleeps (pauses url pause n) = (List.range n).map pause := by
  induction n with
  | zero => rfl
  | succ n ih =>
      rw [pauses_succ, sleeps, List.filterMap_append, ← sleeps, ih, List.range_succ,
        List.map_append]
      rfl

theorem requests_closing (reply : Reply) : requests (closing reply) = [] := by
  unfold closing
  split
  · rfl
  · split <;> rfl

theorem sleeps_closing (reply : Reply) : sleeps (closing reply) = [] := by
  unfold closing
  split
  · rfl
  · split <;> rfl

theorem requests_course (last : Reply) :
    requests (course url pause n last) = List.replicate (n + 1) url := by
  have asked : requests (.get url :: closing last) = url :: requests (closing last) := rfl
  rw [course, requests, List.filterMap_append, ← requests, ← requests, requests_pauses, asked,
    requests_closing, List.replicate_succ']

theorem sleeps_course (last : Reply) :
    sleeps (course url pause n last) = (List.range n).map pause := by
  have asked : sleeps (.get url :: closing last) = sleeps (closing last) := rfl
  rw [course, sleeps, List.filterMap_append, ← sleeps, ← sleeps, sleeps_pauses, asked,
    sleeps_closing, List.append_nil]

theorem tidy_pauses {reply : Nat → Reply} {rest : List Event}
    (responded : ∀ i < n, (reply i).isResponse) (tidy : Tidy reply n rest) :
    Tidy reply 0 (pauses url pause n ++ rest) := by
  induction n generalizing rest with
  | zero => exact tidy
  | succ n ih =>
      rw [pauses_succ, List.append_assoc]
      exact ih (fun i hi => responded i (Nat.lt_succ_of_lt hi))
        ⟨responded n (Nat.lt_succ_self n), tidy⟩

theorem tidy_course {reply : Nat → Reply} (responded : ∀ i < n, (reply i).isResponse) :
    Tidy reply 0 (course url pause n (reply n)) := by
  refine tidy_pauses url pause n responded ?_
  unfold closing
  split
  next reason came => exact ⟨by rw [came]; rfl, trivial⟩
  next r came =>
    split
    · exact ⟨by rw [came]; rfl, trivial⟩
    · exact ⟨by rw [came]; rfl, trivial⟩

end

theorem Waits.isResponse {settings : Settings} {reply : Reply} {made : Nat} {seconds : Rat}
    (waits : Waits settings reply made seconds) : reply.isResponse := by
  obtain ⟨r, rfl, -⟩ := waits
  rfl

/-- A busy reply is waited for as long as it asks in digits, or for the doubled delay. -/
theorem waits_of_plain {settings : Settings} {reply : Reply} {made : Nat} (busy : reply.isBusy)
    (plain : reply.IsPlain) (representable : settings.arithmetic = .exact ∨ made < powerLimit) :
    Waits settings reply made (settings.pause reply made) := by
  cases reply with
  | failed reason => cases busy
  | response r => exact ⟨r, rfl, busy, delay_of_plain plain representable⟩

/-- A download makes one request more than there are busy replies before the reply that decides, all
to one address, and waits after each of those: as long as it asks in digits, else twice as long as
before. The replies that are waited for are the leading busy ones, up to the number of retries. Every
response is released once, before anything else happens, and the last reply alone decides. -/
theorem exchanged_of_fetch {settings : Settings} {m : Nat} (retries : settings.maxRetries = m)
    (representable : settings.arithmetic = .exact ∨ m ≤ powerLimit) (transport : Transport σ)
    (v : ModuleVersion) (scene : Scene (Wire σ)) :
    let url := Proxy.archiveUrl settings.proxy v
    let reply := transport.reply url scene.world.state
    let done := (fetch settings transport v).run.run scene
    (∀ i < m, (reply i).IsPlain) → ∀ k, (∀ i < k, (reply i).isBusy) →
      (k ≤ m → (reply k).isBusy = false) →
      ∃ events, done.2.world.events = scene.world.events ++ events ∧
        done.2.world.state = transport.after url scene.world.state (min k m + 1) ∧
        requests events = List.replicate (min k m + 1) url ∧
        sleeps events = (List.range (min k m)).map (fun i => settings.pause (reply i) i) ∧
        Tidy reply 0 events ∧
        (∀ payload, done.1 = .ok payload ↔ k ≤ m ∧ (reply k).payload? = some payload) ∧
        ((∀ payload, done.1 ≠ .ok payload) → ∃ cause, done.1 = .error (refusal v cause)) := by
  intro url reply done plain k leading next
  have budget : settings.maxRetries.toNat = m := by rw [retries, Int.toNat_natCast]
  have waits : ∀ i < min k m, Waits settings (reply i) i (settings.pause (reply i) i) := by
    intro i hi
    obtain ⟨early, allowed⟩ := Nat.lt_min.mp hi
    exact waits_of_plain (leading i early) (plain i allowed)
      (representable.imp_right (Nat.lt_of_lt_of_le allowed))
  have last : min k m = settings.maxRetries.toNat ∨ (reply (min k m)).isBusy = false := by
    rcases Nat.le_total k m with within | beyond
    · rw [Nat.min_eq_left within]
      exact .inr (next within)
    · exact .inl (by rw [budget, Nat.min_eq_right beyond])
  obtain ⟨log, run⟩ := run_fetch (by rw [budget]; exact Nat.min_le_right k m) waits last
  have decided : done.1 = settled v (min k m) (reply (min k m)) := congrArg Prod.fst run
  refine ⟨_, congrArg (·.2.world.events) run, congrArg (·.2.world.state) run, requests_course ..,
    sleeps_course .., tidy_course _ _ _ fun i hi => (waits i hi).isResponse, ?_, ?_⟩
  · intro payload
    rw [decided, settled_eq_ok_iff]
    rcases Nat.lt_or_ge m k with beyond | within
    · rw [Nat.min_eq_right (Nat.le_of_lt beyond), payload?_of_busy (leading m beyond)]
      exact ⟨nofun, fun brought => absurd brought.1 (Nat.not_le_of_lt beyond)⟩
    · rw [Nat.min_eq_left within]
      exact ⟨fun brought => ⟨within, brought⟩, fun brought => brought.2⟩
  · intro failed
    rcases settled_cases v (min k m) (reply (min k m)) with ⟨payload, -, good⟩ | ⟨cause, bad⟩
    · exact absurd (decided.trans good) (failed payload)
    · exact ⟨cause, decided.trans bad⟩

/-- A world that answers out of a list, whatever the address. -/
def scripted : Transport (List Reply)
  | _, [] => (.failed "nothing left", [])
  | _, reply :: rest => (reply, rest)

/-- The first response asks for no delay, the second one for seven seconds, the third one is good. -/
def patient : List Reply :=
  [.response ⟨503, none, .ok (.octets [])⟩, .response ⟨429, some "07", .ok (.octets [])⟩,
    .response ⟨200, none, .ok (.octets [80])⟩]

theorem exchanged_of_fetch_patient :
    let done := (fetch ⟨"https://p/", 2, 1 / 2, .binary64⟩ scripted ⟨"m", "v1"⟩).run.run
      ⟨⟨patient, []⟩, []⟩
    done.1 = .ok (.octets [80]) ∧ done.2.world.state = [] ∧
      requests done.2.world.events = List.replicate 3 "https://p/m/@v/v1.zip" ∧
      sleeps done.2.world.events = [1 / 2, 7] := by
  intro done
  have address : Proxy.archiveUrl "https://p/" ⟨"m", "v1"⟩ = "https://p/m/@v/v1.zip" := by
    decide +kernel
  have plain : ∀ i < 2, (scripted.reply "https://p/m/@v/v1.zip" patient i).IsPlain := by
    intro i hi text asked
    rcases i with _ | _ | i
    · cases asked
    · cases asked
      decide
    · omega
  obtain ⟨events, all, state, asked, waited, -, result, -⟩ :=
    @exchanged_of_fetch _ ⟨"https://p/", 2, 1 / 2, .binary64⟩ 2 rfl (.inr (by decide)) scripted
      ⟨"m", "v1"⟩ ⟨⟨patient, []⟩, []⟩ (address ▸ plain) 2
      (by decide) (by decide)
  have events_eq : done.2.world.events = events := all
  refine ⟨(result _).mpr ⟨Nat.le_refl 2, rfl⟩, state, ?_, ?_⟩
  · rw [events_eq, asked, address]
    rfl
  · rw [events_eq, waited]
    decide +kernel

end Attribution.Download
