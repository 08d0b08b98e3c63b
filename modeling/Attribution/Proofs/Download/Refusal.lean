import Attribution.Proofs.Download.Attempt

/-!
How a download fails. It is documented to bring an archive or to name the version in a problem, and
it does, unless the delay that a busy reply asks for cannot be told.
-/

namespace Attribution.Download

variable {σ : Type}

/-- What a download is documented to come to: the archive that a reply brings, or a problem with the
download that names the version. -/
def Documented (v : ModuleVersion) (reply : Nat → Reply) : Except Failure Payload → Prop
  | .ok payload => ∃ i, (reply i).payload? = some payload
  | .error f => ∃ p, f = .problem p ∧ p.kind = .download ∧ p.module = some v

theorem not_documented_fault {v : ModuleVersion} {reply : Nat → Reply} (fault : Fault) :
    ¬ Documented v reply (.error (.fault fault)) := by
  rintro ⟨p, problem, -⟩
  cases problem

theorem documented_settled (v : ModuleVersion) (made : Nat) (reply : Nat → Reply) (i : Nat) :
    Documented v reply (settled v made (reply i)) := by
  rcases settled_cases v made (reply i) with ⟨payload, brought, good⟩ | ⟨cause, bad⟩
  · rw [good]
    exact ⟨i, brought⟩
  · rw [bad]
    exact ⟨_, rfl, rfl, rfl⟩

/-- The replies that are waited for, up to the first one that is not. -/
theorem exists_waits (settings : Settings) (reply : Nat → Reply) (m : Nat) :
    ∃ n ≤ m, (∀ i < n, ∃ seconds, Waits settings (reply i) i seconds) ∧
      (n = m ∨ ¬ ∃ seconds, Waits settings (reply n) n seconds) := by
  induction m with
  | zero => exact ⟨0, Nat.le_refl 0, nofun, .inl rfl⟩
  | succ m ih =>
      obtain ⟨n, few, waits, rfl | stops⟩ := ih
      · by_cases goes : ∃ seconds, Waits settings (reply n) n seconds
        · refine ⟨n + 1, Nat.le_refl _, fun i hi => ?_, .inl rfl⟩
          rcases Nat.lt_succ_iff_lt_or_eq.mp hi with before | rfl
          · exact waits i before
          · exact goes
        · exact ⟨n, Nat.le_succ n, waits, .inr goes⟩
      · exact ⟨n, Nat.le_succ_of_le few, waits, .inr stops⟩

section

variable {settings : Settings} {reply : Reply} {made : Nat} {seconds : Rat}

theorem Waits.isBusy (waits : Waits settings reply made seconds) : reply.isBusy := by
  obtain ⟨r, rfl, busy, -⟩ := waits
  exact busy

theorem Waits.not_baffled (waits : Waits settings reply made seconds) :
    ¬ settings.Baffled reply made := by
  obtain ⟨r, rfl, -, told⟩ := waits
  exact delay_isOk_iff.mp ⟨seconds, told⟩

/-- A busy reply that is not waited for asks for a delay that cannot be told. -/
theorem exists_untold (busy : reply.isBusy) (stops : ¬ ∃ seconds, Waits settings reply made seconds) :
    ∃ r fault, reply = .response r ∧ isRetryable r.status ∧ delay settings r made = .error fault ∧
      settings.Baffled reply made := by
  cases reply with
  | failed reason => cases busy
  | response r =>
      cases delayed : delay settings r made with
      | ok seconds => exact absurd ⟨seconds, r, rfl, busy, delayed⟩ stops
      | error fault =>
          refine ⟨r, fault, rfl, busy, delayed, ?_⟩
          by_contra told
          rw [← delay_isOk_iff, delayed] at told
          obtain ⟨seconds, told⟩ := told
          cases told

end

/-- A download comes to what is documented, unless a busy reply that is to be waited for, with none
but busy ones before it, asks for a delay that cannot be told. Then it ends in a fault. -/
theorem documented_of_fetch (settings : Settings) (transport : Transport σ) (v : ModuleVersion)
    (scene : Scene (Wire σ)) :
    let reply := transport.reply (Proxy.archiveUrl settings.proxy v) scene.world.state
    let done := (fetch settings transport v).run.run scene
    (Documented v reply done.1 ↔ ∀ i < settings.maxRetries.toNat,
      (∀ j ≤ i, (reply j).isBusy) → ¬ settings.Baffled (reply i) i) ∧
    (¬ Documented v reply done.1 → ∃ fault, done.1 = .error (.fault fault)) := by
  intro reply done
  obtain ⟨n, few, waits, last⟩ := exists_waits settings reply settings.maxRetries.toNat
  choose! pause waits using waits
  have told {i : Nat} (before : i < n) : ¬ settings.Baffled (reply i) i :=
    (waits i before).not_baffled
  by_cases settles : n = settings.maxRetries.toNat ∨ (reply n).isBusy = false
  · obtain ⟨log, run⟩ := run_fetch few waits settles
    have documented : Documented v reply done.1 := by
      rw [show done.1 = _ from congrArg Prod.fst run]
      exact documented_settled v n reply n
    refine ⟨iff_of_true documented fun i allowed busy => ?_, absurd documented⟩
    rcases Nat.lt_or_ge i n with before | after
    · exact told before
    · rcases settles with rfl | steady
      · exact absurd allowed (Nat.not_lt_of_le after)
      · rw [busy n after] at steady
        cases steady
  · obtain ⟨short, steady⟩ := not_or.mp settles
    have more : n < settings.maxRetries.toNat := Nat.lt_of_le_of_ne few short
    have busy : (reply n).isBusy := Bool.not_eq_false _ ▸ steady
    obtain ⟨r, fault, came, retryable, untold, baffled⟩ :=
      exists_untold busy (last.resolve_left short)
    have stopped : done.1 = .error (.fault fault) :=
      run_fetch_untold more waits came retryable untold
    have bad : ¬ Documented v reply done.1 := stopped ▸ not_documented_fault fault
    refine ⟨iff_of_false bad fun all => ?_, fun _ => ⟨fault, stopped⟩⟩
    refine all n more (fun j hj => ?_) baffled
    rcases Nat.lt_or_eq_of_le hj with before | rfl
    · exact (waits j before).isBusy
    · exact busy

/-- A world that always asks to come back after a time written with a raised two. -/
def raised : Transport Unit := fun _ s => (.response ⟨503, some "²", .ok (.octets [])⟩, s)

/-- The raised two counts as a digit but writes no number. -/
theorem raised_undocumented :
    let reply := raised.reply (Proxy.archiveUrl Proxy.defaultUrl ⟨"m", "v1"⟩) ()
    let done := (fetch .default raised ⟨"m", "v1"⟩).run.run ⟨⟨(), []⟩, []⟩
    done.1 = .error (.fault (.unreadableDelay "²")) ∧ ¬ Documented ⟨"m", "v1"⟩ reply done.1 := by
  have stops : ((fetch .default raised ⟨"m", "v1"⟩).run.run ⟨⟨(), []⟩, []⟩).1 =
      .error (.fault (.unreadableDelay "²")) := by decide +kernel
  exact ⟨stops, stops ▸ not_documented_fault _⟩

end Attribution.Download
