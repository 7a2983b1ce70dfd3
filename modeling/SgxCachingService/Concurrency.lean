/-
  SGX caching service: requests running concurrently (§4.5, §7).

  The handlers run as goroutines over one repository, and nothing orders them: no lock, no
  transaction, no single-flight. A server state is the threads, each a handler's program at its
  current point, and the store; a step runs the next call of one thread atomically, a
  repository statement or a PCS request, answered as in `Call.Outcome`. An interleaving is any
  sequence of steps (`Server.Steps`), labelled with the PCS requests they sent.

  What every interleaving keeps is the primary keys: no keyed table ever holds two rows with one
  key (`Server.Steps.keysUnique`), since `Create` refuses a key that is there and `Save`
  replaces the row of its key. What it does not give is a sequential order: two pushes of one
  QE-ID that both pass their `Retrieve` before either writes both call `/pckcerts`, and the later
  one fails on the key the first inserted (`concurrent_pushes_both_fetch`). A sequential run of
  one handler is the interleaving in which only its thread moves (`Prog.Runs.steps`).
  `Server.runSchedule` runs a fixed schedule of thread indices and is sound for `Server.Steps`
  (`Server.runSchedule_steps`).

  `Server.StepsOn` is the same interleavings labelled with the PCS exchange each step made, the
  request and the reply (`Server.steps_iff_stepsOn`). Each thread's part of one is a run of its
  program among the other threads, with the exchanges of its own steps
  (`Server.StepsOn.runsAmid`): what is proved of `Prog.RunsAmid` holds of every thread of every
  interleaving.
-/
import SgxCachingService.History

namespace SgxCachingService

/-! ## Threads and steps -/

/-- A thread of the server: a handler's program at its current point. -/
structure Thread where
  {α : Type}
  prog : Prog α

/-- The PCS request a call sends, if it is one. -/
def Call.pcsRequest : Call β → Option PcsRequest
  | .pcs req => some req
  | _ => none

/-- The server: its threads and the repository they share. -/
structure Server where
  threads : List Thread
  store : Store

/-- One step: thread `i` runs its next call, atomically, and the world answers it as in
`Call.Outcome`; the step is labelled with the PCS request it sent, if any. -/
inductive Server.Step : Server → Nat × Option PcsRequest → Server → Prop
  | call {σ : Server} {i : Nat} {α β : Type} {c : Call β} {k : β → Prog α} {b : β} {s' : Store}
      (hi : σ.threads[i]? = some ⟨.call c k⟩) (ho : c.Outcome σ.store b s') :
      Server.Step σ (i, c.pcsRequest) ⟨σ.threads.set i ⟨k b⟩, s'⟩

/-- An interleaving: the steps taken, in order. -/
inductive Server.Steps : Server → List (Nat × Option PcsRequest) → Server → Prop
  | refl (σ : Server) : Server.Steps σ [] σ
  | step {σ σ₁ σ₂ : Server} {l : Nat × Option PcsRequest} {tr : List (Nat × Option PcsRequest)}
      (h : Server.Step σ l σ₁) (hs : Server.Steps σ₁ tr σ₂) : Server.Steps σ (l :: tr) σ₂

theorem Thread.eq_of_mk {α α' : Type} {p : Prog α} {p' : Prog α'}
    (h : (⟨p⟩ : Thread) = ⟨p'⟩) : ∃ e : α = α', e ▸ p = p' := by
  cases h
  exact ⟨rfl, rfl⟩

theorem Thread.prog_eq {β : Type} {p p' : Prog β} (h : (⟨p⟩ : Thread) = ⟨p'⟩) : p = p' := by
  cases h
  rfl

/-! ## Keys stay unique -/

theorem Server.Step.keysUnique {σ σ' : Server} {l : Nat × Option PcsRequest}
    (h : Server.Step σ l σ') (hs : σ.store.KeysUnique) : σ'.store.KeysUnique := by
  cases h with
  | call _ ho => exact ho.keysUnique hs

theorem Server.Steps.keysUnique {σ σ' : Server} {tr : List (Nat × Option PcsRequest)}
    (h : Server.Steps σ tr σ') (hs : σ.store.KeysUnique) : σ'.store.KeysUnique := by
  induction h with
  | refl => exact hs
  | step h _ ih => exact ih (h.keysUnique hs)

/-! ## One thread alone -/

/-- A run of one program is an interleaving in which only its thread moves: `Prog.Runs` is
the one-thread case of `Server.Steps`, whatever the other threads are. -/
theorem Prog.Runs.steps {p : Prog α} {s s' : Store} {e : Exit α} (h : p.Runs s e s')
    {ts : List Thread} {i : Nat} (hi : i < ts.length) :
    ∃ tr, Server.Steps ⟨ts.set i ⟨p⟩, s⟩ tr ⟨ts.set i ⟨Prog.ofExit e⟩, s'⟩ := by
  induction h with
  | ret => exact ⟨[], .refl _⟩
  | panic => exact ⟨[], .refl _⟩
  | call ho _ ih =>
    obtain ⟨tr, htr⟩ := ih
    refine ⟨_ :: tr, .step (.call (List.getElem?_set_self hi) ho) ?_⟩
    rwa [List.set_set]

/-! ## Interleavings with their exchanges -/

/-- One step with the PCS exchange it made: as `Server.Step`, labelled with the call's exchange,
the request with the reply it got, instead of the request alone. -/
inductive Server.StepOn : Server → Nat × List Exchange → Server → Prop
  | call {σ : Server} {i : Nat} {α β : Type} {c : Call β} {k : β → Prog α} {b : β} {s' : Store}
      (hi : σ.threads[i]? = some ⟨.call c k⟩) (ho : c.Outcome σ.store b s') :
      Server.StepOn σ (i, c.exchanges b) ⟨σ.threads.set i ⟨k b⟩, s'⟩

/-- An interleaving with the exchanges of its steps. -/
inductive Server.StepsOn : Server → List (Nat × List Exchange) → Server → Prop
  | refl (σ : Server) : Server.StepsOn σ [] σ
  | step {σ σ₁ σ₂ : Server} {l : Nat × List Exchange} {tr : List (Nat × List Exchange)}
      (h : Server.StepOn σ l σ₁) (hs : Server.StepsOn σ₁ tr σ₂) : Server.StepsOn σ (l :: tr) σ₂

/-- The label of `Server.Step` that a labelled step forgets to: the request of its exchange. -/
def Server.requestOf (l : Nat × List Exchange) : Nat × Option PcsRequest :=
  (l.1, l.2.head?.map Prod.fst)

/-- The exchanges thread `j` made in an interleaving, in order. -/
def Server.exchangesOf (j : Nat) : List (Nat × List Exchange) → List Exchange
  | [] => []
  | (i, xs) :: tr => if i = j then xs ++ Server.exchangesOf j tr else Server.exchangesOf j tr

theorem Call.pcsRequest_eq (c : Call β) (b : β) :
    c.pcsRequest = (c.exchanges b).head?.map Prod.fst := by
  cases c <;> rfl

/-- The interleavings with their exchanges are the interleavings. -/
theorem Server.steps_iff_stepsOn {σ σ' : Server} {tr : List (Nat × Option PcsRequest)} :
    Server.Steps σ tr σ' ↔ ∃ tr', Server.StepsOn σ tr' σ' ∧ tr = tr'.map Server.requestOf := by
  constructor
  · intro h
    induction h with
    | refl σ => exact ⟨[], .refl σ, rfl⟩
    | step h _ ih =>
      obtain ⟨tr', h', rfl⟩ := ih
      cases h with
      | @call i α β c k b s' hi ho =>
        exact ⟨_ :: tr', .step (.call hi ho) h', by rw [Call.pcsRequest_eq c b]; rfl⟩
  · rintro ⟨tr', h, rfl⟩
    induction h with
    | refl σ => exact .refl σ
    | step h _ ih =>
      cases h with
      | @call i α β c k b s' hi ho =>
        have hs := Server.Step.call hi ho
        rw [Call.pcsRequest_eq c b] at hs
        exact .step hs ih

/-- Thread `j`'s part of an interleaving, from a point where it runs `p` to one where it has
returned, is a run of `p` among the other threads with the exchanges of its own steps: every
step of another thread keeps the keys. -/
theorem Server.StepsOn.runsAmid {σ σ' : Server} {tr : List (Nat × List Exchange)}
    (h : Server.StepsOn σ tr σ') {j : Nat} {p : Prog α} (hj : σ.threads[j]? = some ⟨p⟩)
    {a : α} (hret : σ'.threads[j]? = some ⟨Prog.ret a⟩) :
    p.RunsAmid (Server.exchangesOf j tr) σ.store (.returned a) σ'.store := by
  induction h generalizing p with
  | refl σ =>
    obtain rfl := Thread.prog_eq (Option.some.inj (hj.symm.trans hret))
    exact .ret a (.refl _)
  | @step σ₀ σ₁ σ₂ l tr hs _ ih =>
    cases hs with
    | @call i α₀ β c k b s' hi ho =>
    by_cases hij : i = j
    · subst hij
      obtain ⟨rfl, rfl⟩ := Thread.eq_of_mk (Option.some.inj (hi.symm.trans hj))
      have hlt : i < σ₀.threads.length := (List.getElem?_eq_some_iff.1 hi).1
      rw [Server.exchangesOf, if_pos rfl]
      exact .call (.refl _) ho (ih (by simp [List.getElem?_set_self hlt]) hret)
    · rw [Server.exchangesOf, if_neg hij]
      exact (ih (by simpa [List.getElem?_set_ne hij] using hj) hret).of_keeps ho.keeps

/-! ## A fixed schedule -/

/-- Runs the threads in the order `schedule` names them, answering each call as
`Prog.runWith` does; a finished thread's turn is skipped. -/
def Server.runSchedule (clock : Nat) :
    List Nat → List (Except String HttpResponse) → Server →
      Option (Server × List (Nat × Option PcsRequest))
  | [], _, σ => some (σ, [])
  | i :: schedule, rs, σ =>
    match σ.threads[i]? with
    | some ⟨.call c k⟩ =>
      match c.answer clock rs σ.store with
      | some (b, rs', s') =>
        (runSchedule clock schedule rs' ⟨σ.threads.set i ⟨k b⟩, s'⟩).map
          fun r => (r.1, (i, c.pcsRequest) :: r.2)
      | none => none
    | _ => runSchedule clock schedule rs σ

theorem Server.runSchedule_steps {clock : Nat} :
    ∀ {schedule : List Nat} {rs : List (Except String HttpResponse)} {σ σ' : Server}
      {tr : List (Nat × Option PcsRequest)},
      Server.runSchedule clock schedule rs σ = some (σ', tr) → Server.Steps σ tr σ'
  | [], _, _, _, _, h => by cases h; exact .refl _
  | i :: schedule, rs, σ, σ', tr, h => by
    unfold runSchedule at h
    split at h
    · rename_i c k hi
      split at h
      · rename_i b rs' s' hans
        obtain ⟨⟨σ₁, tr₁⟩, h₁, heq⟩ := Option.map_eq_some'.1 h
        cases heq
        exact .step (.call hi (Call.answer_outcome hans)) (runSchedule_steps h₁)
      · cases h
    · exact runSchedule_steps h

/-- A push of `samplePlatform` waiting to start. -/
def samplePushThread : Thread := ⟨pushPlatformInfo (sampleLib sampleTcbm) 1 "body"⟩

set_option maxRecDepth 20000 in
/-- Two pushes of one platform, each past its `Retrieve` before the other writes: both call
`/pckcerts`, and the second fails on the `PckCert` key the first inserted. -/
theorem samplePushes_runSchedule :
    (Server.runSchedule 5 ([0, 1, 0, 1] ++ List.replicate 40 0 ++ List.replicate 40 1)
      [.ok (samplePckCerts "f"), .ok (samplePckCerts "f"), .ok (okResponse [] "tcb"),
        .ok (okResponse [] "crl"), .ok (okResponse [] "qe"), .ok (okResponse [] "tcb")]
      ⟨[samplePushThread, samplePushThread], Store.empty⟩).map
        (fun r =>
          ((r.2.filter (·.2 = some (.pckcerts samplePpid "0000"))).map (·.1), r.1.threads)) =
      some ([0, 1],
        [⟨Prog.ret (Reply.written statusCreated ⟨"Created", "platform data pushed to scs"⟩)⟩,
        ⟨Prog.ret (Reply.resourceError "duplicate key value violates unique constraint"
          statusInternalServerError)⟩]) :=
  rfl

end SgxCachingService
