import Mathlib.Data.List.Induction
import Registrar.Pass.Memo
import Registrar.Proofs.Lists

/-!
# Answers from memory

Whoever works with a memo sees the answers of plain passes. The memo may answer from memory, and it
does so exactly when the last pass was over the same batch and the configuration was left as it was
since then; otherwise it runs a new pass. What the fingerprints are does not matter: where two
batches share one, the memo still tells them apart.

* `Memo.Session` : a memo with the passes that it has answered with.
* `Memo.Repeats` : a request asks for what was asked for last.
* `Memo.Faithful` : the invariant; `Memo.Faithful.serve` says that a request keeps it and
  `Memo.faithful_serveAll` that all requests do.
* `Memo.serve_compile_transparent` : what a memo answers.
-/

namespace Registrar.Memo

/-! ## §1 — sessions -/

/-- What can be asked of a memo. -/
inductive Request where
  /-- To work under a configuration. -/
  | setConfig (config : Config)
  /-- For the pass over a batch. -/
  | compile (batch : Batch)

/-- A memo, and the passes that it has answered with so far. -/
structure Session where
  memo : Memo
  answers : List Pass

namespace Session

/-- The session of a new memo. -/
def start (config : Config) : Session := { memo := { config }, answers := [] }

/-- Serve one request. -/
def serve (fingerprint : Batch → UInt64) (session : Session) : Request → Session
  | .setConfig config => { session with memo := session.memo.setConfig config }
  | .compile batch =>
    let (memo, pass) := session.memo.compile fingerprint batch
    { memo, answers := session.answers ++ [pass] }

/-- Serve requests one after the other, from a new memo on. -/
def serveAll (fingerprint : Batch → UInt64) (config : Config) (requests : List Request) :
    Session :=
  requests.foldl (serve fingerprint) (start config)

end Session

/-- The configuration that is in force after some requests. -/
def configAfter (config : Config) : List Request → Config
  | [] => config
  | .setConfig config :: rest => configAfter config rest
  | .compile _ :: rest => configAfter config rest

/-- These requests ask for no pass, and none of them changes the configuration that it finds. -/
def Quiet (config : Config) : List Request → Prop
  | [] => True
  | .setConfig next :: rest => next = config ∧ Quiet next rest
  | .compile _ :: _ => False

/-- The last pass that was asked for was over this batch, and the configuration was not changed
after it. -/
def Repeats (config : Config) (requests : List Request) (batch : Batch) : Prop :=
  ∃ earlier between, requests = earlier ++ .compile batch :: between ∧
    Quiet (configAfter config earlier) between

/-! ## §2 — one request more -/

variable {config next : Config} {requests between : List Request} {batch asked : Batch}

/-- The configuration in force goes through the requests one after the other. -/
theorem configAfter_append (config : Config) (requests more : List Request) :
    configAfter config (requests ++ more) = configAfter (configAfter config requests) more := by
  induction requests generalizing config with
  | nil => rfl
  | cons request requests ih =>
    cases request with
    | setConfig next => exact ih next
    | compile _ => exact ih config

/-- A stretch is quiet if its parts are, the second one under the configuration that the first one
leaves. -/
theorem quiet_append_iff (more : List Request) :
    Quiet config (between ++ more) ↔
      Quiet config between ∧ Quiet (configAfter config between) more := by
  induction between generalizing config with
  | nil => simp [Quiet, configAfter]
  | cons request between ih =>
    cases request with
    | setConfig next =>
      show next = config ∧ Quiet next (between ++ more) ↔
        (next = config ∧ Quiet next between) ∧ Quiet (configAfter next between) more
      rw [ih, and_assoc]
    | compile _ => exact ⟨False.elim, fun h => False.elim h.1⟩

theorem not_repeats_nil : ¬ Repeats config [] batch := by
  rintro ⟨earlier, between, h, -⟩
  simp at h

/-- After a request for a pass, a request repeats it if it asks for the same batch. -/
theorem repeats_snoc_compile_iff :
    Repeats config (requests ++ [.compile asked]) batch ↔ asked = batch := by
  refine ⟨?_, ?_⟩
  · rintro ⟨earlier, between, hsplit, hquiet⟩
    rcases eq_of_append_singleton_eq hsplit with ⟨-, -, hlast⟩ | ⟨between, rfl, -⟩
    · exact Request.compile.inj hlast
    · -- no quiet stretch ends in asking for a pass
      exact False.elim ((quiet_append_iff _).mp hquiet).2
  · rintro rfl
    exact ⟨requests, [], rfl, trivial⟩

/-- Setting the configuration leaves something to repeat only if it stays as it is. -/
theorem repeats_snoc_setConfig_iff :
    Repeats config (requests ++ [.setConfig next]) batch ↔
      next = configAfter config requests ∧ Repeats config requests batch := by
  refine ⟨?_, ?_⟩
  · rintro ⟨earlier, between, hsplit, hquiet⟩
    rcases eq_of_append_singleton_eq hsplit with ⟨-, -, hlast⟩ | ⟨between, rfl, rfl⟩
    · exact absurd hlast (by simp)
    · obtain ⟨hbetween, hnext, -⟩ := (quiet_append_iff _).mp hquiet
      refine ⟨?_, earlier, between, rfl, hbetween⟩
      rw [hnext, configAfter_append]
      rfl
  · rintro ⟨rfl, earlier, between, rfl, hquiet⟩
    refine ⟨earlier, between ++ [.setConfig (configAfter config
      (earlier ++ .compile batch :: between))], by simp, ?_⟩
    rw [quiet_append_iff]
    refine ⟨hquiet, ?_, trivial⟩
    rw [configAfter_append]
    rfl

/-! ## §3 — the invariant -/

/-- What holds of a session after some requests: the memo works under the configuration in force,
its numbers tell the passes apart, and it remembers the last answer if and only if a request for the
same batch would repeat it. -/
structure Faithful (fingerprint : Batch → UInt64) (config : Config) (requests : List Request)
    (session : Session) : Prop where
  config_eq : session.memo.config = configAfter config requests
  number_lt : ∀ pass ∈ session.answers, pass.number < session.memo.count
  number_inj : ∀ pass ∈ session.answers, ∀ other ∈ session.answers,
    pass.number = other.number → pass = other
  repeats_iff : ∀ batch, Repeats config requests batch ↔
    ∃ pass, session.memo.last = some pass ∧ pass.batch = batch
  answered : ∀ pass, session.memo.last = some pass → session.answers.getLast? = some pass
  fingerprint_eq : ∀ pass, session.memo.last = some pass →
    pass.fingerprint = fingerprint pass.batch
  output_eq : ∀ pass, session.memo.last = some pass →
    pass.output = Registrar.compile pass.batch session.memo.config

/-- The invariant holds of a new memo, which has answered nothing and remembers nothing. -/
theorem faithful_start (fingerprint : Batch → UInt64) (config : Config) :
    Faithful fingerprint config [] (Session.start config) := by
  refine ⟨rfl, ?_, ?_, ?_, ?_, ?_, ?_⟩
  · exact fun pass hpass => absurd hpass List.not_mem_nil
  · exact fun pass hpass => absurd hpass List.not_mem_nil
  · intro batch
    refine iff_of_false not_repeats_nil ?_
    rintro ⟨pass, hpass, -⟩
    exact absurd hpass (by simp [Session.start])
  all_goals exact fun pass hpass => absurd hpass (by simp [Session.start])

namespace Faithful

variable {fingerprint : Batch → UInt64} {session : Session}

/-- **A request that repeats the last one is answered from memory.** The fingerprints agree because
the batches do. -/
theorem serve_of_repeats (h : Faithful fingerprint config requests session)
    (hrepeats : Repeats config requests batch) :
    ∃ pass, session.memo.last = some pass ∧ pass.batch = batch ∧
      session.serve fingerprint (.compile batch) =
        { session with answers := session.answers ++ [pass] } := by
  obtain ⟨pass, hlast, rfl⟩ := (h.repeats_iff batch).mp hrepeats
  have hremembered : session.memo.remembered? fingerprint pass.batch = some pass := by
    rw [remembered?, hlast]
    simp [h.fingerprint_eq pass hlast]
  refine ⟨pass, hlast, rfl, ?_⟩
  simp [Session.serve, Memo.compile, hremembered]

/-- **Any other request runs a new pass**: a fingerprint that agrees by chance is not enough. -/
theorem serve_of_not_repeats (h : Faithful fingerprint config requests session)
    (hrepeats : ¬ Repeats config requests batch) :
    session.serve fingerprint (.compile batch) =
      { memo := (session.memo.run fingerprint batch).1
        answers := session.answers ++ [(session.memo.run fingerprint batch).2] } := by
  have hremembered : session.memo.remembered? fingerprint batch = none := by
    cases hlast : session.memo.last with
    | none => rw [remembered?, hlast, Option.filter_none]
    | some pass =>
      have hne : pass.batch ≠ batch := fun heq =>
        hrepeats ((h.repeats_iff batch).mpr ⟨pass, hlast, heq⟩)
      rw [remembered?, hlast]
      simp [hne]
  simp [Session.serve, Memo.compile, hremembered]

/-- A new configuration keeps the invariant: the last pass is forgotten exactly if the configuration
changes. -/
theorem setConfig (h : Faithful fingerprint config requests session) (next : Config) :
    Faithful fingerprint config (requests ++ [.setConfig next])
      (session.serve fingerprint (.setConfig next)) := by
  have hafter : configAfter config (requests ++ [.setConfig next]) = next := by
    rw [configAfter_append]
    rfl
  by_cases hsame : next = session.memo.config
  · -- nothing is forgotten, and the request was a quiet one
    have hmemo : session.serve fingerprint (.setConfig next) = session := by
      simp [Session.serve, Memo.setConfig, hsame]
    rw [hmemo]
    refine ⟨by rw [hafter, hsame], h.number_lt, h.number_inj, ?_, h.answered, h.fingerprint_eq,
      h.output_eq⟩
    intro batch
    rw [repeats_snoc_setConfig_iff, ← h.config_eq, ← h.repeats_iff batch]
    exact and_iff_right hsame
  · -- the last pass is forgotten, and nothing can be repeated
    have hmemo : session.serve fingerprint (.setConfig next) =
        { session with memo := { session.memo with config := next, last := none } } := by
      simp [Session.serve, Memo.setConfig, hsame]
    rw [hmemo]
    refine ⟨hafter.symm, h.number_lt, h.number_inj, ?_, ?_, ?_, ?_⟩
    · intro batch
      rw [repeats_snoc_setConfig_iff, ← h.config_eq]
      simp [hsame]
    all_goals exact fun pass hpass => absurd hpass (by simp)

/-- An answer from memory keeps the invariant: it is among the answers already. -/
theorem compile_of_repeats (h : Faithful fingerprint config requests session)
    (hrepeats : Repeats config requests batch) :
    Faithful fingerprint config (requests ++ [.compile batch])
      (session.serve fingerprint (.compile batch)) := by
  obtain ⟨last, hlast, hbatch, hserve⟩ := h.serve_of_repeats hrepeats
  have hmem : last ∈ session.answers := List.mem_of_getLast? (h.answered last hlast)
  have hold : ∀ pass ∈ session.answers ++ [last], pass ∈ session.answers := by
    intro pass hpass
    rcases List.mem_append.mp hpass with hpass | hpass
    · exact hpass
    · exact (List.mem_singleton.mp hpass) ▸ hmem
  rw [hserve]
  refine ⟨?_, ?_, ?_, ?_, ?_, h.fingerprint_eq, h.output_eq⟩
  · rw [configAfter_append]
    exact h.config_eq
  · exact fun pass hpass => h.number_lt pass (hold pass hpass)
  · exact fun pass hpass other hother =>
      h.number_inj pass (hold pass hpass) other (hold other hother)
  · intro asked
    rw [repeats_snoc_compile_iff]
    show batch = asked ↔ ∃ pass, session.memo.last = some pass ∧ pass.batch = asked
    rw [hlast]
    simp [hbatch]
  · intro pass hpass
    obtain rfl : last = pass := Option.some.inj (hlast.symm.trans hpass)
    exact List.getLast?_concat

/-- A new pass keeps the invariant: its number is above all others. -/
theorem compile_of_not_repeats (h : Faithful fingerprint config requests session)
    (hrepeats : ¬ Repeats config requests batch) :
    Faithful fingerprint config (requests ++ [.compile batch])
      (session.serve fingerprint (.compile batch)) := by
  rw [h.serve_of_not_repeats hrepeats]
  generalize hnew : (session.memo.run fingerprint batch).2 = new
  have hnumber : new.number = session.memo.count := by rw [← hnew]; rfl
  have hlast : (session.memo.run fingerprint batch).1.last = some new := by rw [← hnew]; rfl
  refine ⟨?_, ?_, ?_, ?_, ?_, ?_, ?_⟩
  · rw [configAfter_append]
    exact h.config_eq
  · intro pass hpass
    show pass.number < session.memo.count + 1
    rcases List.mem_append.mp hpass with hpass | hpass
    · exact Nat.lt_succ_of_lt (h.number_lt pass hpass)
    · rw [List.mem_singleton.mp hpass, hnumber]
      exact Nat.lt_succ_self _
  · intro pass hpass other hother heq
    -- two old answers are told apart as before, and the new one has a number of its own
    rcases List.mem_append.mp hpass with hpass | hpass <;>
      rcases List.mem_append.mp hother with hother | hother
    · exact h.number_inj pass hpass other hother heq
    · have hlt := h.number_lt pass hpass
      rw [heq, List.mem_singleton.mp hother, hnumber] at hlt
      exact absurd hlt (Nat.lt_irrefl _)
    · have hlt := h.number_lt other hother
      rw [← heq, List.mem_singleton.mp hpass, hnumber] at hlt
      exact absurd hlt (Nat.lt_irrefl _)
    · rw [List.mem_singleton.mp hpass, List.mem_singleton.mp hother]
  · intro asked
    rw [repeats_snoc_compile_iff, hlast, ← hnew]
    simp [Memo.run]
  -- what the memo remembers now is the new pass
  all_goals
    intro pass hpass
    obtain rfl : new = pass := Option.some.inj (hlast.symm.trans hpass)
  · exact List.getLast?_concat
  · rw [← hnew]
    rfl
  · rw [← hnew]
    rfl

/-- **A request keeps the invariant.** -/
theorem serve (h : Faithful fingerprint config requests session) (request : Request) :
    Faithful fingerprint config (requests ++ [request]) (session.serve fingerprint request) := by
  cases request with
  | setConfig next => exact h.setConfig next
  | compile batch =>
    by_cases hrepeats : Repeats config requests batch
    · exact h.compile_of_repeats hrepeats
    · exact h.compile_of_not_repeats hrepeats

end Faithful

/-! ## §4 — all requests -/

variable (fingerprint : Batch → UInt64) (config : Config) (requests : List Request) (batch : Batch)

theorem serveAll_snoc (request : Request) :
    Session.serveAll fingerprint config (requests ++ [request]) =
      (Session.serveAll fingerprint config requests).serve fingerprint request := by
  rw [Session.serveAll, List.foldl_append]
  rfl

/-- The invariant holds after all requests. Induction on them, from the end. -/
theorem faithful_serveAll :
    Faithful fingerprint config requests (Session.serveAll fingerprint config requests) := by
  induction requests using List.reverseRecOn with
  | nil => exact faithful_start fingerprint config
  | append_singleton requests request ih =>
    rw [serveAll_snoc]
    exact ih.serve request

/-- **A memo is transparent.** Whatever it was asked before, it answers with the pass under the
configuration in force. The answer is the very one that it gave last if and only if the request
repeats the last one; otherwise it is none of those that it ever gave. Numbers tell answers
apart. -/
theorem serve_compile_transparent :
    ∃ pass,
      (Session.serveAll fingerprint config (requests ++ [.compile batch])).answers =
        (Session.serveAll fingerprint config requests).answers ++ [pass] ∧
      pass.output = Registrar.compile batch (configAfter config requests) ∧
      ((∃ last, (Session.serveAll fingerprint config requests).answers.getLast? = some last ∧
          last.number = pass.number) ↔ Repeats config requests batch) ∧
      (¬ Repeats config requests batch →
        ∀ answer ∈ (Session.serveAll fingerprint config requests).answers,
          answer.number ≠ pass.number) ∧
      ∀ answer ∈ (Session.serveAll fingerprint config requests).answers,
        answer.number = pass.number → answer = pass := by
  have h := faithful_serveAll fingerprint config requests
  have hinj := (h.serve (.compile batch)).number_inj
  rw [serveAll_snoc]
  by_cases hrepeats : Repeats config requests batch
  · obtain ⟨pass, hlast, rfl, hserve⟩ := h.serve_of_repeats hrepeats
    rw [hserve] at hinj ⊢
    refine ⟨pass, rfl, ?_, ?_, fun hnot => absurd hrepeats hnot, ?_⟩
    · rw [h.output_eq pass hlast, h.config_eq]
    -- an answer from memory is the last one, so its number is the same
    · exact iff_of_true ⟨pass, h.answered pass hlast, rfl⟩ hrepeats
    · exact fun answer hanswer => hinj answer (List.mem_append_left _ hanswer) pass (by simp)
  · rw [h.serve_of_not_repeats hrepeats]
    have hfresh : ∀ answer ∈ (Session.serveAll fingerprint config requests).answers,
        answer.number ≠ (Session.serveAll fingerprint config requests).memo.count :=
      fun answer hanswer => Nat.ne_of_lt (h.number_lt answer hanswer)
    refine ⟨_, rfl, ?_, ?_, fun _ => hfresh, fun answer hanswer heq =>
      absurd heq (hfresh answer hanswer)⟩
    · rw [← h.config_eq]
      rfl
    · refine iff_of_false ?_ hrepeats
      rintro ⟨last, hlast, hnumber⟩
      exact hfresh last (List.mem_of_getLast? hlast) hnumber

example :
    (Session.serveAll (fun _ => 0) {}
      [.compile {}, .setConfig {}, .compile {}, .setConfig { ordering := .firstSeen },
        .setConfig {}, .compile {}]).answers.map (·.number) = [0, 0, 1] := by decide

end Registrar.Memo
