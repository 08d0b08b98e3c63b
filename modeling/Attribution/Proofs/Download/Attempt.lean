import Attribution.Download
import Attribution.Proofs.Text.Digit
import Mathlib.Data.List.Range

/-!
The attempts of a download, one by one. A reply that asks to come back later is waited for while more
attempts are allowed and its delay can be told; any other one is the last. What a run of them comes to
follows from these steps, whatever the world answers.
-/

namespace Attribution.Download

open Text

variable {σ : Type}

section

variable (transport : Transport σ) (url : String) (s : σ)

/-- The state of a world after so many requests to one address. -/
def Transport.after : Nat → σ
  | 0 => s
  | n + 1 => (transport url (after n)).2

/-- The replies of a world to requests to one address, one after the other. -/
def Transport.reply (n : Nat) : Reply := (transport url (transport.after url s n)).1

end

/-- Whether a reply asks to come back later. -/
def Reply.isBusy : Reply → Bool
  | .failed _ => false
  | .response r => isRetryable r.status

/-- The archive that a reply brings: the body of a good response, if it can be read. -/
def Reply.payload? : Reply → Option Payload
  | .failed _ => none
  | .response r => if r.status = 200 then r.body.toOption else none

/-- The failure of a download. -/
def refusal (v : ModuleVersion) (cause : Cause) : Failure :=
  .problem (.new .download (some cause.message) (some v))

/-- What comes of a reply that is not waited for. -/
def settled (v : ModuleVersion) (made : Nat) : Reply → Except Failure Payload
  | .failed reason => .error (refusal v (.network reason))
  | .response r =>
    if isRetryable r.status then .error (refusal v (.exhausted r.status made))
    else if r.status = 404 ∨ r.status = 410 then .error (refusal v .notFound)
    else if r.status ≠ 200 then .error (refusal v (.status r.status))
    else r.body.mapError fun reason => refusal v (.network reason)

/-- What follows such a reply on the wire. -/
def closing : Reply → List Event
  | .failed _ => []
  | .response r => if r.status = 200 then [.read, .release] else [.release]

theorem not_isRetryable_of_good {status : Int} (good : status = 200) :
    ¬ isRetryable status = true := by
  rw [good]
  decide

theorem settled_eq_ok_iff {v : ModuleVersion} {made : Nat} {reply : Reply} {payload : Payload} :
    settled v made reply = .ok payload ↔ reply.payload? = some payload := by
  cases reply with
  | failed reason => simp [settled, Reply.payload?]
  | response r =>
      by_cases good : r.status = 200
      · have missing : ¬ (r.status = 404 ∨ r.status = 410) := by omega
        rw [settled, if_neg (not_isRetryable_of_good good), if_neg missing,
          if_neg (not_not.mpr good), Reply.payload?, if_pos good]
        cases r.body <;> simp [Except.mapError, Except.toOption]
      · simp only [settled, Reply.payload?, good, if_false, ne_eq, not_false_eq_true, if_true]
        split_ifs <;> simp

theorem payload?_of_busy {reply : Reply} (busy : reply.isBusy) : reply.payload? = none := by
  cases reply with
  | failed reason => rfl
  | response r => exact if_neg fun good => not_isRetryable_of_good good busy

theorem settled_cases (v : ModuleVersion) (made : Nat) (reply : Reply) :
    (∃ payload, reply.payload? = some payload ∧ settled v made reply = .ok payload) ∨
      ∃ cause, settled v made reply = .error (refusal v cause) := by
  cases reply with
  | failed reason => exact .inr ⟨_, rfl⟩
  | response r =>
      cases result : settled v made (.response r) with
      | ok payload => exact .inl ⟨payload, settled_eq_ok_iff.mp result, rfl⟩
      | error f =>
          right
          simp only [settled] at result
          split_ifs at result with busy missing other
          · exact ⟨_, result.symm⟩
          · exact ⟨_, result.symm⟩
          · exact ⟨_, result.symm⟩
          · cases body : r.body with
            | error reason => rw [body] at result; exact ⟨_, result.symm⟩
            | ok payload => rw [body] at result; cases result

section

variable {settings : Settings} {transport : Transport σ} {v : ModuleVersion} {made more : Nat}
  {w : Wire σ} {log : List LogLine} {r : Response} {state : σ} {reply : Reply}

theorem run_send {url : String} (replied : transport url w.state = (reply, state)) :
    (send transport url).run.run ⟨w, log⟩ =
      (.ok reply, ⟨⟨state, w.events ++ [.get url]⟩, log⟩) := by
  change (Except.ok (transport url w.state).1,
    Scene.mk (Wire.mk (transport url w.state).2 (w.events ++ [.get url])) log) = _
  rw [replied]

/-- Every attempt starts with a request. -/
theorem run_request {α : Type}
    (replied : transport (Proxy.archiveUrl settings.proxy v) w.state = (reply, state))
    (log : List LogLine) (next : Reply → Run (Wire σ) α) :
    ∃ log', (do
        let url := Proxy.archiveUrl settings.proxy v
        Run.debug ("Downloading " ++ url)
        let reply ← send transport url
        next reply : Run (Wire σ) α).run.run ⟨w, log⟩ =
      (next reply).run.run
        ⟨⟨state, w.events ++ [.get (Proxy.archiveUrl settings.proxy v)]⟩, log'⟩ := by
  apply Exists.intro
  change (send transport _ >>= _ : Run (Wire σ) α).run.run ⟨w, log ++ [⟨.debug, _⟩]⟩ = _
  rw [ExceptT.run_bind, StateT.run_bind, run_send replied]
  rfl

/-- A busy reply is waited for while more attempts are allowed and its delay can be told. -/
theorem run_pause {seconds : Rat}
    (replied : transport (Proxy.archiveUrl settings.proxy v) w.state = (.response r, state))
    (busy : isRetryable r.status) (told : delay settings r made = .ok seconds) :
    ∃ log', (attempt settings transport v made (more + 1)).run.run ⟨w, log⟩ =
      (attempt settings transport v (made + 1) more).run.run
        ⟨⟨state, w.events ++
          [.get (Proxy.archiveUrl settings.proxy v), .release, .sleep seconds]⟩, log'⟩ := by
  rw [attempt, List.append_cons, List.append_cons]
  obtain ⟨log', run⟩ := run_request replied log _
  apply Exists.intro
  refine run.trans ?_
  simp only [busy, if_true, told]
  rfl

theorem run_untold {fault : Fault}
    (replied : transport (Proxy.archiveUrl settings.proxy v) w.state = (.response r, state))
    (busy : isRetryable r.status) (untold : delay settings r made = .error fault) :
    ∃ log', (attempt settings transport v made (more + 1)).run.run ⟨w, log⟩ =
      (.error (.fault fault),
        ⟨⟨state, w.events ++ [.get (Proxy.archiveUrl settings.proxy v), .release]⟩, log'⟩) := by
  rw [attempt, List.append_cons]
  obtain ⟨log', run⟩ := run_request replied log _
  refine ⟨log', run.trans ?_⟩
  simp only [busy, if_true, untold]
  rfl

/-- Any other reply is the last one, and so is a busy one when no more attempts are allowed. -/
theorem run_settled
    (replied : transport (Proxy.archiveUrl settings.proxy v) w.state = (reply, state))
    (last : more = 0 ∨ reply.isBusy = false) :
    ∃ log', (attempt settings transport v made more).run.run ⟨w, log⟩ =
      (settled v made reply,
        ⟨⟨state, w.events ++ .get (Proxy.archiveUrl settings.proxy v) :: closing reply⟩, log'⟩) := by
  rw [attempt, List.append_cons]
  cases reply with
  | failed reason =>
      obtain ⟨log', run⟩ := run_request replied log _
      exact ⟨log', by rw [run, closing, List.append_nil]; rfl⟩
  | response r =>
      obtain ⟨log', run⟩ := run_request replied log _
      refine ⟨log', run.trans ?_⟩
      by_cases busy : isRetryable r.status
      · obtain rfl : more = 0 := by
          simpa only [Reply.isBusy, busy, or_false, reduceCtorEq] using last
        have other : r.status ≠ 200 := fun good => not_isRetryable_of_good good busy
        simp only [settled, closing, busy, other, if_true, if_false]
        rfl
      · by_cases missing : r.status = 404 ∨ r.status = 410
        · have other : r.status ≠ 200 := by omega
          simp only [settled, closing, busy, missing, other, Bool.or_eq_true, decide_eq_true_eq,
            if_true, if_false]
          rfl
        · by_cases good : r.status = 200
          · have other : (r.status ≠ 200) = False := eq_false (not_not.mpr good)
            rw [closing, if_pos good, List.append_cons _ Event.read]
            simp only [settled, busy, missing, other, Bool.or_eq_true, decide_eq_true_eq, if_false]
            cases r.body <;> rfl
          · simp only [settled, closing, busy, missing, good, Bool.or_eq_true, decide_eq_true_eq,
              if_true, if_false, ne_eq, not_false_eq_true]
            rfl

end

/-- The delay that a reply asks for, as it was sent. -/
def Reply.wish? : Reply → Option String
  | .failed _ => none
  | .response r => r.retryAfter

/-- The seconds that a reply asks for in ASCII digits. -/
def Reply.seconds? (reply : Reply) : Option Nat :=
  reply.wish?.bind fun text =>
    if text.toList ≠ [] ∧ text.toList.all Char.isDigit then some (Number.ofDigits text.toList)
    else none

/-- The digits that a reply sends are those of ASCII. -/
def Reply.IsPlain (reply : Reply) : Prop :=
  ∀ text ∈ reply.wish?, isDigits text.toList → text.toList.all Char.isDigit

/-- The delay after a reply: the seconds it asks for, else the base delay, doubled so many times. -/
def Settings.pause (settings : Settings) (reply : Reply) (made : Nat) : Rat :=
  match reply.seconds? with
  | some n => n
  | none => settings.backoff * 2 ^ made

/-- The delay after a reply cannot be told: it asks for digits that write no number, or for none, and
the base delay was doubled too often. -/
def Settings.Baffled (settings : Settings) (reply : Reply) (made : Nat) : Prop :=
  (∃ text ∈ reply.wish?, isDigits text.toList ∧ ∃ c ∈ text.toList, decimalDigit? c = none) ∨
    (∀ text ∈ reply.wish?, ¬ isDigits text.toList) ∧ settings.arithmetic = .binary64 ∧
      powerLimit ≤ made

section

variable {settings : Settings} {r : Response} {made : Nat}

theorem doubled_eq (representable : settings.arithmetic = .exact ∨ made < powerLimit) :
    settings.doubled made = .ok (settings.backoff * 2 ^ made) := by
  rw [Settings.doubled]
  cases arithmetic : settings.arithmetic with
  | exact => rfl
  | binary64 =>
      have low : made < powerLimit := representable.resolve_left (by rw [arithmetic]; nofun)
      rw [Arithmetic.power, if_pos low]
      rfl

theorem delay_of_plain (plain : (Reply.response r).IsPlain)
    (representable : settings.arithmetic = .exact ∨ made < powerLimit) :
    delay settings r made = .ok (settings.pause (.response r) made) := by
  cases wish : r.retryAfter with
  | none =>
      simp only [delay, Settings.pause, Reply.seconds?, Reply.wish?, wish, Option.bind_none]
      exact doubled_eq representable
  | some text =>
      simp only [delay, Settings.pause, Reply.seconds?, Reply.wish?, wish, Option.bind_some]
      by_cases digits : isDigits text.toList
      · have ascii := plain text wish digits
        have written : text.toList ≠ [] := by
          intro empty
          rw [empty] at digits
          cases digits
        rw [if_pos digits, if_pos ⟨written, ascii⟩, decimal?_of_ascii ascii]
      · have other : ¬ (text.toList ≠ [] ∧ text.toList.all Char.isDigit) := fun ascii =>
          digits (isDigits_of_ascii ascii.1 ascii.2)
        rw [if_neg digits, if_neg other]
        exact doubled_eq representable

theorem doubled_isOk_iff :
    (∃ seconds, settings.doubled made = .ok seconds) ↔
      ¬ (settings.arithmetic = .binary64 ∧ powerLimit ≤ made) := by
  rw [Settings.doubled]
  cases settings.arithmetic with
  | exact => simp [Arithmetic.power, Except.map]
  | binary64 =>
      by_cases low : made < powerLimit
      · simp [Arithmetic.power, Except.map, low]
      · simp [Arithmetic.power, Except.map, low, Nat.le_of_not_lt low]

theorem delay_isOk_iff :
    (∃ seconds, delay settings r made = .ok seconds) ↔ ¬ settings.Baffled (.response r) made := by
  cases wish : r.retryAfter with
  | none =>
      simp only [delay, Settings.Baffled, Reply.wish?, wish]
      simpa using doubled_isOk_iff
  | some text =>
      simp only [delay, Settings.Baffled, Reply.wish?, wish]
      by_cases digits : isDigits text.toList
      · simp only [Option.mem_some_iff, digits, if_true, exists_eq_left', true_and, forall_eq',
          not_true, false_and, or_false, ← decimal?_eq_none_iff]
        cases decimal? text.toList <;> simp
      · simpa [digits] using doubled_isOk_iff

end

/-- The exchanges that end in a pause, as many as are given. -/
def pauses (url : String) (pause : Nat → Rat) (n : Nat) : List Event :=
  (List.range n).flatMap fun i => [.get url, .release, .sleep (pause i)]

theorem pauses_succ (url : String) (pause : Nat → Rat) (n : Nat) :
    pauses url pause (n + 1) = pauses url pause n ++ [.get url, .release, .sleep (pause n)] := by
  rw [pauses, List.range_succ, List.flatMap_append]
  rfl

/-- A reply is busy, and the delay after it is the given one. -/
def Waits (settings : Settings) (reply : Reply) (made : Nat) (seconds : Rat) : Prop :=
  ∃ r, reply = .response r ∧ isRetryable r.status ∧ delay settings r made = .ok seconds

/-- The busy replies that are waited for lead to the attempt after them. -/
theorem run_pauses {settings : Settings} {transport : Transport σ} {v : ModuleVersion} {w : Wire σ}
    {pause : Nat → Rat} {n : Nat}
    (waits : ∀ i < n,
      Waits settings (transport.reply (Proxy.archiveUrl settings.proxy v) w.state i) i (pause i))
    (log : List LogLine) (more : Nat) :
    ∃ log', (attempt settings transport v 0 (n + more)).run.run ⟨w, log⟩ =
      (attempt settings transport v n more).run.run
        ⟨⟨transport.after (Proxy.archiveUrl settings.proxy v) w.state n,
          w.events ++ pauses (Proxy.archiveUrl settings.proxy v) pause n⟩, log'⟩ := by
  induction n generalizing more with
  | zero => exact ⟨log, by rw [Nat.zero_add]; simp [Transport.after, pauses]⟩
  | succ n ih =>
      obtain ⟨log', before⟩ := ih (fun i hi => waits i (Nat.lt_succ_of_lt hi)) (more + 1)
      obtain ⟨r, replied, busy, told⟩ := waits n (Nat.lt_succ_self n)
      rw [Nat.add_right_comm, Nat.add_assoc, before, pauses_succ, ← List.append_assoc]
      exact run_pause (Prod.ext replied rfl) busy told

/-- What goes over the wire until a reply decides, with so many busy ones before it. -/
def course (url : String) (pause : Nat → Rat) (n : Nat) (last : Reply) : List Event :=
  pauses url pause n ++ .get url :: closing last

/-- While the busy replies are waited for, the one after them decides. -/
theorem run_fetch {settings : Settings} {transport : Transport σ} {v : ModuleVersion}
    {scene : Scene (Wire σ)} {pause : Nat → Rat} {n : Nat}
    (few : n ≤ settings.maxRetries.toNat)
    (waits : ∀ i < n, Waits settings
      (transport.reply (Proxy.archiveUrl settings.proxy v) scene.world.state i) i (pause i))
    (last : n = settings.maxRetries.toNat ∨
      (transport.reply (Proxy.archiveUrl settings.proxy v) scene.world.state n).isBusy = false) :
    ∃ log, (fetch settings transport v).run.run scene =
      (settled v n (transport.reply (Proxy.archiveUrl settings.proxy v) scene.world.state n),
        ⟨⟨transport.after (Proxy.archiveUrl settings.proxy v) scene.world.state (n + 1),
          scene.world.events ++ course (Proxy.archiveUrl settings.proxy v) pause n
            (transport.reply (Proxy.archiveUrl settings.proxy v) scene.world.state n)⟩, log⟩) := by
  obtain ⟨more, total⟩ := Nat.exists_eq_add_of_le few
  obtain ⟨log, before⟩ := run_pauses waits scene.log more
  rw [fetch, total, before, course, ← List.append_assoc]
  exact run_settled rfl (last.imp_left fun all => by omega)

/-- A busy reply whose delay cannot be told ends the download, unless no more attempts are
allowed. -/
theorem run_fetch_untold {settings : Settings} {transport : Transport σ} {v : ModuleVersion}
    {scene : Scene (Wire σ)} {pause : Nat → Rat} {n : Nat} {r : Response} {fault : Fault}
    (few : n < settings.maxRetries.toNat)
    (waits : ∀ i < n, Waits settings
      (transport.reply (Proxy.archiveUrl settings.proxy v) scene.world.state i) i (pause i))
    (came : transport.reply (Proxy.archiveUrl settings.proxy v) scene.world.state n = .response r)
    (busy : isRetryable r.status) (untold : delay settings r n = .error fault) :
    ((fetch settings transport v).run.run scene).1 = .error (.fault fault) := by
  obtain ⟨more, total⟩ := Nat.exists_eq_add_of_lt few
  obtain ⟨log, before⟩ := run_pauses waits scene.log (more + 1)
  have replied : transport (Proxy.archiveUrl settings.proxy v)
      (transport.after (Proxy.archiveUrl settings.proxy v) scene.world.state n) =
        (.response r, (transport _ _).2) := Prod.ext came rfl
  obtain ⟨log', run⟩ := run_untold (w := ⟨_, _⟩) replied busy untold
  rw [fetch, total, Nat.add_assoc, before, run]

end Attribution.Download
