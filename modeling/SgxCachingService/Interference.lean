/-
  SGX caching service: the handlers under interference (§4.5, §4.6).

  Model. The handlers run as goroutines over one repository (`Server.Step`, one statement or
  PCS call per step, any thread). `Prog.Safe I Q p s` says that `p`, started at `s`, keeps the
  invariant `I` at each of its own steps and ends in `Q`, whatever the other threads do between
  its steps, as long as they keep `I` and delete no row (`Store.Keeps`, which every step of the
  model keeps). A thread that is safe stays safe after any step of any thread
  (`Server.Step.safe`); so, over a whole interleaving, `I` holds throughout and a thread that
  has returned satisfies its post-condition in the current store (`Server.Steps.safe`).

  The invariant is `Store.Backed`: each `Platform` row has the `PckCert` row of its QE-ID and
  the `FmspcTcbInfo` row of its FMSPC, and each `PlatformTcb` row has the `Platform` row of its
  QE-ID. The push chain writes the platform after the certificate and the TCB info, and the
  platform's TCB after the platform; the refreshes and the status query write neither table.

  Proved:
  * `interleaving_keeps_references`: over every interleaving of concurrent pushes, refreshes,
    timer ticks and status queries from a store where the references hold, they hold.
  * `interleaved_push_answers`: in such an interleaving, labelled with its exchanges
    (`Server.StepsOn`), once a push thread has answered 200 or 201 the store has the pushed
    platform with its certificate and TCB info; once it has answered 201, the reply to its own
    first exchange is a `/pckcerts` reply `readPckCerts` accepted, and the store has a CRL for
    that reply's CA type and a QE identity, whatever the other threads did before or after.
    The thread's part of the interleaving is a run among the others (`Server.StepsOn.runsAmid`),
    so this is `pushPlatformInfo_runsAmid` together with the references.
  * `one_thread_steps_iff_runs`: with one thread the server does what `Prog.Runs` says, no more
    and no less, so the sequential results are the one-request case of the interleaved ones.

  Not claimed: that concurrent requests serialize. Two pushes of one platform both fetch, and
  the second fails on the key the first inserted (`concurrent_pushes_both_fetch`).
-/
import SgxCachingService.Concurrency

namespace SgxCachingService

/-! ## Safety under interference -/

/-- `p`, started at `s`, keeps `I` at each of its steps and ends in `Q`, while other threads
keep `I` and delete no row between its steps. -/
inductive Prog.Safe (I : Store → Prop) (Q : α → Store → Prop) : Prog α → Store → Prop
  | ret {a : α} {s : Store} (done : ∀ s', I s' → s.Keeps s' → Q a s') : Prog.Safe I Q (.ret a) s
  | panic {m : String} {s : Store} : Prog.Safe I Q (.panic m) s
  | call {β : Type} {c : Call β} {k : β → Prog α} {s : Store}
      (step : ∀ s₁ b s₂, I s₁ → s.Keeps s₁ → c.Outcome s₁ b s₂ → I s₂)
      (next : ∀ s₁ b s₂, I s₁ → s.Keeps s₁ → c.Outcome s₁ b s₂ → Prog.Safe I Q (k b) s₂) :
      Prog.Safe I Q (.call c k) s

section
variable {I : Store → Prop}

/-- Safety from a store is safety from any store that kept its keys. -/
theorem Prog.Safe.mono {Q : α → Store → Prop} {p : Prog α} {s s' : Store}
    (h : p.Safe I Q s) (hk : s.Keeps s') : p.Safe I Q s' := by
  cases h with
  | ret done => exact .ret fun s₂ hI h₂ => done s₂ hI (hk.trans h₂)
  | panic => exact .panic
  | call step next =>
    exact .call (fun s₁ b s₂ hI h₁ => step s₁ b s₂ hI (hk.trans h₁))
      fun s₁ b s₂ hI h₁ => next s₁ b s₂ hI (hk.trans h₁)

theorem Prog.Safe.post {Q Q' : α → Store → Prop} {p : Prog α} {s : Store} (h : p.Safe I Q s)
    (hQ : ∀ a s', I s' → Q a s' → Q' a s') : p.Safe I Q' s := by
  induction h with
  | ret done => exact .ret fun s' hI hk => hQ _ s' hI (done s' hI hk)
  | panic => exact .panic
  | call step _ ih => exact .call step ih

theorem Prog.Safe.bind {Q : α → Store → Prop} {R : β → Store → Prop} {p : Prog α}
    {f : α → Prog β} {s : Store} (h : p.Safe I Q s) (hs : I s)
    (hf : ∀ a s', I s' → s.Keeps s' → Q a s' → (f a).Safe I R s') : (p >>= f).Safe I R s := by
  induction h with
  | ret done => exact hf _ _ hs (.refl _) (done _ hs (.refl _))
  | panic => exact .panic
  | call step next ih =>
    refine .call step fun s₁ b s₂ hI h₁ ho => ?_
    exact ih s₁ b s₂ hI h₁ ho (step s₁ b s₂ hI h₁ ho)
      fun a s' hI' h' hQ => hf a s' hI' (h₁.trans (ho.keeps.trans h')) hQ

/-- A safe program keeps the keys of any store its start kept the keys of. -/
theorem Prog.Safe.keeps_from {Q : α → Store → Prop} {p : Prog α} {s₀ s : Store}
    (hk : s₀.Keeps s) (h : p.Safe I Q s) : p.Safe I (fun a s' => s₀.Keeps s' ∧ Q a s') s := by
  induction h with
  | ret done => exact .ret fun s' hI h' => ⟨hk.trans h', done s' hI h'⟩
  | panic => exact .panic
  | call step _ ih =>
    exact .call step fun s₁ b s₂ hI h₁ ho => ih s₁ b s₂ hI h₁ ho (hk.trans (h₁.trans ho.keeps))

/-- A safe program keeps the keys of its start. -/
theorem Prog.Safe.and_keeps {Q : α → Store → Prop} {p : Prog α} {s : Store} (h : p.Safe I Q s) :
    p.Safe I (fun a s' => s.Keeps s' ∧ Q a s') s :=
  h.keeps_from (.refl s)

/-- One call: its answer comes from some later store, and the stores after it keep the keys. -/
theorem Prog.safe_call {c : Call β} {s : Store}
    (hc : ∀ s₁ b s₂, I s₁ → s.Keeps s₁ → c.Outcome s₁ b s₂ → I s₂) :
    (Prog.call c .ret).Safe I
      (fun b s' => ∃ s₁ s₂, s.Keeps s₁ ∧ c.Outcome s₁ b s₂ ∧ s₂.Keeps s') s :=
  .call hc fun s₁ _ s₂ _ h₁ ho => .ret fun _ _ h' => ⟨s₁, s₂, h₁, ho, h'⟩

/-- Under the trivial invariant every program is safe, with the keys of its start kept. -/
theorem Prog.safe_true (p : Prog α) (s : Store) :
    p.Safe (fun _ => True) (fun _ s' => s.Keeps s') s := by
  induction p generalizing s with
  | ret a => exact .ret fun _ _ h => h
  | panic m => exact .panic
  | call c k ih =>
    exact .call (fun _ _ _ _ _ _ => trivial)
      fun _ b s₂ _ h₁ ho => (ih b s₂).post fun _ _ _ h => h₁.trans (ho.keeps.trans h)

/-! ## Interleavings -/

/-- The store satisfies the invariant and every thread is safe from it. -/
def Server.AllSafe (I : Store → Prop) (σ : Server) : Prop :=
  I σ.store ∧ ∀ (i : Nat) (th : Thread), σ.threads[i]? = some th → ∃ Q, th.prog.Safe I Q σ.store

/-- One step keeps the invariant, and each thread, the one that moved included, stays safe
with the post-condition it had. -/
theorem Server.Step.safe {σ σ' : Server} {l : Nat × Option PcsRequest} (h : Server.Step σ l σ')
    (hσ : σ.AllSafe I) :
    I σ'.store ∧ ∀ (j : Nat) {α : Type} {p : Prog α} {Q : α → Store → Prop},
      σ.threads[j]? = some ⟨p⟩ → p.Safe I Q σ.store →
      ∃ p' : Prog α, σ'.threads[j]? = some ⟨p'⟩ ∧ p'.Safe I Q σ'.store := by
  cases h with
  | @call i α₀ β c k b s' hi ho =>
  obtain ⟨Q₀, hs₀⟩ := hσ.2 i _ hi
  cases hs₀ with
  | call step _ =>
  refine ⟨step _ b s' hσ.1 (.refl _) ho, fun j α p Q hj hp => ?_⟩
  by_cases hji : i = j
  · subst hji
    obtain ⟨rfl, rfl⟩ := Thread.eq_of_mk (Option.some.inj (hi.symm.trans hj))
    cases hp with
    | call _ next =>
    have hlt : i < σ.threads.length := (List.getElem?_eq_some_iff.1 hi).1
    exact ⟨k b, by simp [List.getElem?_set_self hlt], next _ b s' hσ.1 (.refl _) ho⟩
  · exact ⟨p, by simpa [List.getElem?_set_ne hji] using hj, hp.mono ho.keeps⟩

theorem Server.Step.length_eq {σ σ' : Server} {l : Nat × Option PcsRequest}
    (h : Server.Step σ l σ') : σ'.threads.length = σ.threads.length := by
  cases h
  exact List.length_set ..

theorem Server.Step.keeps {σ σ' : Server} {l : Nat × Option PcsRequest}
    (h : Server.Step σ l σ') : σ.store.Keeps σ'.store := by
  cases h with
  | call _ ho => exact ho.keeps

theorem Server.Step.allSafe {σ σ' : Server} {l : Nat × Option PcsRequest}
    (h : Server.Step σ l σ') (hσ : σ.AllSafe I) : σ'.AllSafe I := by
  obtain ⟨hI, hth⟩ := h.safe hσ
  refine ⟨hI, fun j th' hj' => ?_⟩
  have hlt : j < σ.threads.length := h.length_eq ▸ (List.getElem?_eq_some_iff.1 hj').1
  obtain ⟨Q, hQ⟩ := hσ.2 j _ (List.getElem?_eq_getElem hlt)
  obtain ⟨p', hp', hsafe⟩ := hth j (List.getElem?_eq_getElem hlt) hQ
  obtain rfl := Option.some.inj (hj'.symm.trans hp')
  exact ⟨Q, hsafe⟩

/-- Over a whole interleaving every thread stays safe and keeps its post-condition. -/
theorem Server.Steps.safe {σ σ' : Server} {tr : List (Nat × Option PcsRequest)}
    (h : Server.Steps σ tr σ') (hσ : σ.AllSafe I) :
    σ'.AllSafe I ∧ ∀ (j : Nat) {α : Type} {p : Prog α} {Q : α → Store → Prop},
      σ.threads[j]? = some ⟨p⟩ → p.Safe I Q σ.store →
      ∃ p' : Prog α, σ'.threads[j]? = some ⟨p'⟩ ∧ p'.Safe I Q σ'.store := by
  induction h with
  | refl => exact ⟨hσ, fun _ _ _ _ hj hp => ⟨_, hj, hp⟩⟩
  | step h _ ih =>
    obtain ⟨hall, hth⟩ := ih (h.allSafe hσ)
    refine ⟨hall, fun j _ _ _ hj hp => ?_⟩
    obtain ⟨p₁, hj₁, hp₁⟩ := (h.safe hσ).2 j hj hp
    exact hth j hj₁ hp₁

/-- A server with one thread runs it as `Prog.Runs` does: wherever the thread has got to, a
sequential run from there extends to one from the start. -/
theorem Server.Steps.single {σ σ' : Server} {tr : List (Nat × Option PcsRequest)}
    (h : Server.Steps σ tr σ') {p : Prog α} (hp : σ.threads = [⟨p⟩]) :
    ∃ q : Prog α, σ'.threads = [⟨q⟩] ∧
      ∀ {e : Exit α} {s : Store}, q.Runs σ'.store e s → p.Runs σ.store e s := by
  induction h generalizing p with
  | refl => exact ⟨p, hp, id⟩
  | step hstep _ ih =>
    cases hstep with
    | @call i α₀ β c k b s' hi ho =>
    rw [hp] at hi
    cases i with
    | succ i => simp at hi
    | zero =>
    obtain ⟨rfl, rfl⟩ := Thread.eq_of_mk (Option.some.inj hi)
    obtain ⟨q, hq, hr⟩ := ih (p := k b) (by rw [hp]; rfl)
    exact ⟨q, hq, fun h' => .call ho (hr h')⟩

/-- With one thread the interleaving semantics is the sequential one: the server takes the
thread from `p` to `return a` exactly when `p` has a run that returns `a`. -/
theorem one_thread_steps_iff_runs {p : Prog α} {s s' : Store} {a : α} :
    (∃ tr, Server.Steps ⟨[⟨p⟩], s⟩ tr ⟨[⟨Prog.ret a⟩], s'⟩) ↔ p.Runs s (.returned a) s' := by
  constructor
  · rintro ⟨tr, h⟩
    obtain ⟨q, hq, hr⟩ := h.single rfl
    obtain rfl := Thread.prog_eq (List.cons.inj hq).1
    exact hr (.ret a s')
  · intro h
    exact h.steps (show 0 < [(⟨p⟩ : Thread)].length from Nat.zero_lt_succ _)

/-! ## Programs that only ask PCS -/

/-- A call answered without the repository: a PCS request or the clock. -/
def Call.IsUpstream : Call β → Prop
  | .pcs _ => True
  | .now => True
  | _ => False

/-- Every call of `p` is a PCS request or a reading of the clock. -/
def Prog.UpstreamOnly : Prog α → Prop
  | .ret _ => True
  | .panic _ => True
  | .call c k => c.IsUpstream ∧ ∀ b, (k b).UpstreamOnly

theorem Call.IsUpstream.outcome {c : Call β} (hc : c.IsUpstream) {s s' : Store} {b : β} :
    c.Outcome s b s' ↔ s' = s := by
  cases c <;> first | exact Iff.rfl | exact hc.elim

theorem Prog.UpstreamOnly.bind {p : Prog α} {f : α → Prog β} (hp : p.UpstreamOnly)
    (hf : ∀ a, (f a).UpstreamOnly) : (p >>= f).UpstreamOnly := by
  induction p with
  | ret a => exact hf a
  | panic m => trivial
  | call c k ih => exact ⟨hp.1, fun b => ih b (hp.2 b)⟩

/-- A program that only asks PCS is safe for any invariant, and what its sequential runs
return it returns under interference: the answers it gets do not depend on the store. -/
theorem Prog.UpstreamOnly.safe {R : α → Prop} {p : Prog α} (hp : p.UpstreamOnly)
    (hR : ∀ s a s', p.Runs s (.returned a) s' → R a) (s : Store) :
    p.Safe I (fun a s' => s.Keeps s' ∧ R a) s := by
  induction p generalizing s with
  | ret a => exact .ret fun _ _ h => ⟨h, hR s a s (.ret a s)⟩
  | panic m => exact .panic
  | call c k ih =>
    refine .call (fun _ _ _ hI _ ho => (hp.1.outcome.1 ho) ▸ hI) fun s₁ b s₂ _ h₁ ho => ?_
    obtain rfl := hp.1.outcome.1 ho
    exact (ih b (hp.2 b) (fun s a s' h => hR s a s' (.call (hp.1.outcome.2 rfl) h)) s₂).post
      fun _ _ _ ⟨h, hr⟩ => ⟨h₁.trans h, hr⟩

theorem upstream_upstreamOnly (req : PcsRequest) : (upstream req).UpstreamOnly :=
  ⟨trivial, fun _ => trivial⟩

theorem fetchCollateral_upstreamOnly (req : PcsRequest)
    (statusError contentError chainHeader : String) (build : String → String → α) :
    (fetchCollateral (upstream req) statusError contentError chainHeader build).UpstreamOnly :=
  (upstream_upstreamOnly req).bind fun r => by cases r <;> trivial

theorem fetchPckCertInfo_upstreamOnly (lib : Lib) (platformInfo : Platform) :
    (fetchPckCertInfo lib platformInfo).UpstreamOnly := by
  unfold fetchPckCertInfo
  split
  · trivial
  refine Prog.UpstreamOnly.bind ?_ fun r => ?_
  · unfold requestPckCerts
    split <;> exact upstream_upstreamOnly _
  rcases r with _ | resp
  · trivial
  dsimp only
  split
  · trivial
  refine (fetchCollateral_upstreamOnly _ _ _ _ _).bind fun r => ?_
  rcases r with _ | fmspcTcbInfo
  · trivial
  refine Prog.UpstreamOnly.bind ?_ fun r => ?_
  · cases getBestPckCert lib platformInfo _ _ <;> trivial
  · rcases r with _ | _ <;> trivial

/-- The certificate fetch under interference: a record it returns has the platform's QE-ID and
the TCB info of its own FMSPC. -/
theorem fetchPckCertInfo_safe (lib : Lib) (platformInfo : Platform) (s : Store) :
    (fetchPckCertInfo lib platformInfo).Safe I (fun r s' => s.Keeps s' ∧
      ∀ pckCert fmspcTcbInfo pckCertChain ca, r = .ok (pckCert, fmspcTcbInfo, pckCertChain, ca) →
        pckCert.qeID = platformInfo.qeID ∧ fmspcTcbInfo.fmspc = pckCert.fmspc) s := by
  refine (fetchPckCertInfo_upstreamOnly lib platformInfo).safe (fun s₀ r s' h => ?_) s
  rintro pckCert fmspcTcbInfo pckCertChain ca rfl
  obtain ⟨resp, pci, idx, hread, hft, -, rfl⟩ := (fetchPckCertInfo_runs h).2 _ rfl
  exact ⟨(readPckCerts_qeID hread :), hft⟩

/-- A record `fetchPckCertInfo` returns carries the QE-ID of the platform it asked for. -/
theorem fetchPckCertInfo_qeID {lib : Lib} {platform : Platform} {s s' : Store}
    {r : Except String (PckCert × FmspcTcbInfo × String × String)}
    (h : (fetchPckCertInfo lib platform).Runs s (.returned r) s') :
    ∀ pckCert ft chain ca, r = .ok (pckCert, ft, chain, ca) → pckCert.qeID = platform.qeID := by
  rintro pckCert ft chain ca rfl
  obtain ⟨resp, pci, idx, hread, -, -, rfl⟩ := (fetchPckCertInfo_runs h).2 _ rfl
  exact (readPckCerts_qeID hread :)

/-! ## Cache writers -/

/-- A `Create` leaves the rows that were there and at most its own. -/
theorem Call.Outcome.mem_create {t : Table} {r : t.Row} {s s' : Store} {b : Except String t.Row}
    (ho : (Call.create t r).Outcome s b s') {x : t.Row} (hx : x ∈ s'.rows t) :
    x ∈ s.rows t ∨ x = r := by
  rcases Call.outcome_create ho with ⟨-, -, -, rfl⟩ | ⟨-, rfl⟩
  · simpa [Store.rows_setRows] using hx
  · exact .inl hx

/-- An `Update` leaves the rows that were there, or its own in place of one. -/
theorem Call.Outcome.mem_update {t : Table} {r : t.Row} {s s' : Store} {b : Except String Unit}
    (ho : (Call.update t r).Outcome s b s') {x : t.Row} (hx : x ∈ s'.rows t) :
    x ∈ s.rows t ∨ x = r := by
  rcases Call.outcome_update ho with ⟨-, -, rfl⟩ | ⟨-, rfl⟩
  · rw [Store.rows_setRows] at hx
    exact Table.mem_save hx
  · exact .inl hx

/-- A `Create` that succeeds returns its row and leaves its key in the table. -/
theorem Call.Outcome.create_ok {t : Table} {r x : t.Row} {s s' : Store}
    (ho : (Call.create t r).Outcome s (.ok x) s') : x = r ∧ s'.HasKey t (t.key r) := by
  rcases Call.outcome_create ho with ⟨hx, -, -, rfl⟩ | ⟨⟨m, ⟨⟩⟩, -⟩
  exact ⟨Except.ok.inj hx, by simp [Store.HasKey, Store.rows_setRows]⟩

/-- An `Update` that succeeds leaves its key in the table. -/
theorem Call.Outcome.hasKey_update {t : Table} {r : t.Row} {s s' : Store}
    (ho : (Call.update t r).Outcome s (.ok ()) s') : s'.HasKey t (t.key r) := by
  rcases Call.outcome_update ho with ⟨-, -, rfl⟩ | ⟨⟨m, ⟨⟩⟩, -⟩
  simp only [Store.HasKey, Store.rows_setRows, Table.keys_save]
  split <;> simp_all

/-- The clock: any invariant, any store. -/
theorem timeNow_safe (s : Store) : timeNow.Safe I (fun _ s' => s.Keeps s') s :=
  (Prog.safe_call fun _ _ s₂ hI _ ho => (show s₂ = _ from ho) ▸ hI).post
    fun _ _ _ ⟨_, _, h₁, ho, h₂⟩ => h₁.trans ((show _ = _ from ho) ▸ h₂)

/-- A cache writer whose `Update` and `Create` keep the invariant: a row it returns is its row
stamped, and is in the table under its key in every later store. -/
theorem cacheInfo_safe {t : Table} {row : t.Row} {cacheType : CacheType} {s : Store} (hs : I s)
    (hupd : ∀ n s₁ b s₂, I s₁ → s.Keeps s₁ →
      (Call.update t (t.stampUpdated row n)).Outcome s₁ b s₂ → I s₂)
    (hcre : ∀ n m s₁ b s₂, I s₁ → s.Keeps s₁ →
      (Call.create t (t.stampCreated (t.stampUpdated row n) m)).Outcome s₁ b s₂ → I s₂) :
    (cacheInfo t row cacheType).Safe I (fun r s' => s.Keeps s' ∧ ∀ x, r = .ok x →
      s'.HasKey t (t.key row) ∧ ∃ n m, x = t.stamped row cacheType n m) s := by
  refine Prog.Safe.and_keeps ((timeNow_safe s).bind hs fun n s₁ hI₁ h₁ _ => ?_)
  cases cacheType with
  | cacheRefresh =>
    refine (Prog.safe_call fun s₂ b s₃ hI h₂ => hupd n s₂ b s₃ hI (h₁.trans h₂)).bind hI₁
      fun r s₂ _ h₂ ⟨_, s₄, _, ho, h₄⟩ => ?_
    rcases r with e | ⟨⟩
    · exact .ret fun _ _ _ => nofun
    · refine .ret fun s' _ h' _ hx => ?_
      cases hx
      exact ⟨by simpa using h₄.trans h' _ _ ho.hasKey_update, n, 0, rfl⟩
  | cacheInsert =>
    refine (timeNow_safe s₁).bind hI₁ fun m s₂ hI₂ h₂ _ => ?_
    refine (Prog.safe_call fun s₃ b s₄ hI h₃ =>
      hcre n m s₃ b s₄ hI (h₁.trans (h₂.trans h₃))).post fun r s' _ ⟨_, s₄, h₃, ho, h₄⟩ x hx => ?_
    subst hx
    obtain ⟨rfl, hk⟩ := ho.create_ok
    exact ⟨by simpa using h₄ _ _ hk, n, m, rfl⟩

end

/-! ## The references of the repository -/

/-- Every `PlatformTcb` row has the `Platform` row of its QE-ID. -/
def Store.TcbsBacked (s : Store) : Prop := ∀ pt ∈ s.platformTcbs, s.HasKey .platform pt.qeID

/-- The references the handlers keep: each platform has its certificate and its TCB info, and
each platform TCB its platform. -/
def Store.Backed (s : Store) : Prop := s.PlatformsBacked ∧ s.TcbsBacked

theorem Store.backed_empty : Store.empty.Backed :=
  ⟨fun _ h => (nomatch h), fun _ h => (nomatch h)⟩

/-- A call that writes neither a `Platform` nor a `PlatformTcb` row keeps the references. -/
theorem Call.Outcome.backed {c : Call β} {s s' : Store} {b : β} (hp : c.writes ≠ some .platform)
    (ht : c.writes ≠ some .platformTcb) (ho : c.Outcome s b s') (hs : s.Backed) : s'.Backed := by
  refine ⟨fun q hq => ?_, fun pt hpt => ?_⟩
  · rw [show s'.platforms = s.platforms from ho.rows_eq hp] at hq
    exact (hs.1 q hq).imp (ho.keeps _ _) (ho.keeps _ _)
  · rw [show s'.platformTcbs = s.platformTcbs from ho.rows_eq ht] at hpt
    exact ho.keeps _ _ (hs.2 pt hpt)

/-- Writing a `Platform` row whose certificate and TCB info are there keeps the references. -/
theorem Store.Backed.of_platform_write {s s' : Store} {r : Platform} (hs : s.Backed)
    (hk : s.Keeps s') (hrows : ∀ x ∈ s'.platforms, x ∈ s.platforms ∨ x = r)
    (htcbs : s'.platformTcbs = s.platformTcbs) (hc : s.HasKey .pckCert r.qeID)
    (hf : s.HasKey .fmspcTcbInfo r.fmspc) : s'.Backed := by
  refine ⟨fun q hq => ?_, fun pt hpt => hk _ _ (hs.2 pt (htcbs ▸ hpt))⟩
  rcases hrows q hq with hq | rfl
  exacts [(hs.1 q hq).imp (hk _ _) (hk _ _), ⟨hk _ _ hc, hk _ _ hf⟩]

/-- Writing a `PlatformTcb` row whose platform is there keeps the references. -/
theorem Store.Backed.of_tcb_write {s s' : Store} {r : PlatformTcb} (hs : s.Backed)
    (hk : s.Keeps s') (hplatforms : s'.platforms = s.platforms)
    (hrows : ∀ x ∈ s'.platformTcbs, x ∈ s.platformTcbs ∨ x = r)
    (hp : s.HasKey .platform r.qeID) : s'.Backed := by
  refine ⟨fun q hq => (hs.1 q (hplatforms ▸ hq)).imp (hk _ _) (hk _ _), fun pt hpt => ?_⟩
  rcases hrows pt hpt with hpt | rfl
  exacts [hk _ _ (hs.2 pt hpt), hk _ _ hp]

theorem Call.Outcome.update_platform_backed {r : Platform} {s s' : Store}
    {b : Except String Unit} (ho : (Call.update .platform r).Outcome s b s') (hs : s.Backed)
    (hc : s.HasKey .pckCert r.qeID) (hf : s.HasKey .fmspcTcbInfo r.fmspc) : s'.Backed :=
  hs.of_platform_write ho.keeps (fun _ => ho.mem_update)
    (ho.rows_eq (t := .platformTcb) (by simp [Call.writes])) hc hf

theorem Call.Outcome.create_platform_backed {r : Platform} {s s' : Store}
    {b : Except String Platform} (ho : (Call.create .platform r).Outcome s b s') (hs : s.Backed)
    (hc : s.HasKey .pckCert r.qeID) (hf : s.HasKey .fmspcTcbInfo r.fmspc) : s'.Backed :=
  hs.of_platform_write ho.keeps (fun _ => ho.mem_create)
    (ho.rows_eq (t := .platformTcb) (by simp [Call.writes])) hc hf

theorem Call.Outcome.update_tcb_backed {r : PlatformTcb} {s s' : Store}
    {b : Except String Unit} (ho : (Call.update .platformTcb r).Outcome s b s') (hs : s.Backed)
    (hp : s.HasKey .platform r.qeID) : s'.Backed :=
  hs.of_tcb_write ho.keeps (ho.rows_eq (t := .platform) (by simp [Call.writes]))
    (fun _ => ho.mem_update) hp

theorem Call.Outcome.create_tcb_backed {r : PlatformTcb} {s s' : Store}
    {b : Except String PlatformTcb} (ho : (Call.create .platformTcb r).Outcome s b s')
    (hs : s.Backed) (hp : s.HasKey .platform r.qeID) : s'.Backed :=
  hs.of_tcb_write ho.keeps (ho.rows_eq (t := .platform) (by simp [Call.writes]))
    (fun _ => ho.mem_create) hp

/-- A program that writes neither a `Platform` nor a `PlatformTcb` row: what it does under the
trivial invariant it does keeping the references. -/
theorem Prog.Safe.backed {Q : α → Store → Prop} {p : Prog α} {s : Store}
    (h : p.Safe (fun _ => True) Q s) (hp : p.Avoids .platform) (ht : p.Avoids .platformTcb) :
    p.Safe Store.Backed Q s := by
  induction h with
  | ret done => exact .ret fun s' _ hk => done s' trivial hk
  | panic => exact .panic
  | call _ _ ih =>
    exact .call (fun _ _ _ hI _ ho => ho.backed hp.1 ht.1 hI)
      fun s₁ b s₂ _ h₁ ho => ih s₁ b s₂ trivial h₁ ho (hp.2 b) (ht.2 b)

/-- A cache writer on a table other than `Platform` and `PlatformTcb` keeps the references. -/
theorem cacheInfo_safe_of_ne {t : Table} (hp : t ≠ .platform) (ht : t ≠ .platformTcb)
    (row : t.Row) (cacheType : CacheType) {s : Store} (hs : s.Backed) :
    (cacheInfo t row cacheType).Safe Store.Backed (fun r s' => s.Keeps s' ∧ ∀ x,
      r = .ok x → s'.HasKey t (t.key row) ∧ ∃ n m, x = t.stamped row cacheType n m) s :=
  cacheInfo_safe hs
    (fun _ _ _ _ hI _ ho => ho.backed (by simpa [Call.writes] using hp)
      (by simpa [Call.writes] using ht) hI)
    fun _ _ _ _ _ hI _ ho => ho.backed (by simpa [Call.writes] using hp)
      (by simpa [Call.writes] using ht) hI

/-- `cachePlatformInfo` of a platform whose certificate and TCB info are there: it keeps the
references, and when it returns the platform is there in every later store. -/
theorem cachePlatformInfo_safe (platform : Platform) (cacheType : CacheType) {s : Store}
    (hs : s.Backed) (hc : s.HasKey .pckCert platform.qeID)
    (hf : s.HasKey .fmspcTcbInfo platform.fmspc) :
    (cachePlatformInfo platform cacheType).Safe Store.Backed (fun r s' => s.Keeps s' ∧
      (r = .ok () → s'.HasKey .platform platform.qeID)) s := by
  refine Prog.Safe.and_keeps ((cacheInfo_safe hs
    (fun _ _ _ _ hI h₁ ho => ho.update_platform_backed hI (h₁ _ _ hc) (h₁ _ _ hf))
    fun _ _ _ _ _ hI h₁ ho => ho.create_platform_backed hI (h₁ _ _ hc) (h₁ _ _ hf)).bind hs
      fun r s₁ _ _ ⟨_, hr⟩ => .ret fun s' _ h => ?_)
  rcases r with e | x
  · exact nofun
  · exact fun _ => h _ _ (hr x rfl).1

/-- `cachePlatformTcbInfo` of a platform that is there keeps the references. -/
theorem cachePlatformTcbInfo_safe (platform : Platform) (tcbm : String) (cacheType : CacheType)
    {s : Store} (hs : s.Backed) (hp : s.HasKey .platform platform.qeID) :
    (cachePlatformTcbInfo platform tcbm cacheType).Safe Store.Backed
      (fun _ s' => s.Keeps s') s := by
  refine (cacheInfo_safe hs ?_ ?_).bind hs fun _ _ _ h₁ _ => .ret fun _ _ h => h₁.trans h
  · exact fun _ _ _ _ hI h₁ ho => ho.update_tcb_backed hI (h₁ _ _ hp)
  · exact fun _ _ _ _ _ hI h₁ ho => ho.create_tcb_backed hI (h₁ _ _ hp)

/-! ## The push chain -/

/-- `getLazyCachePckCert` under interference keeps the references: it writes the `Platform` row
after the certificate and the TCB info it needs, and the `PlatformTcb` row after the platform,
and no other thread deletes those. -/
theorem getLazyCachePckCert_safe (lib : Lib) (platform : Platform) (cacheType : CacheType)
    {s : Store} (hs : s.Backed) :
    (getLazyCachePckCert lib platform cacheType).Safe Store.Backed (fun _ _ => True) s := by
  refine (fetchPckCertInfo_safe lib platform s).bind hs fun r s₁ hI₁ _ ⟨_, hr⟩ => ?_
  rcases r with e | ⟨pci, ft, chain, ca⟩
  · exact .ret fun _ _ _ => trivial
  obtain ⟨hq, hft⟩ := hr _ _ _ _ rfl
  refine (((Prog.safe_true _ s₁).backed (cachePckCertChainInfo_avoids _ chain cacheType)
    (cachePckCertChainInfo_avoids _ chain cacheType)).bind hI₁ fun r s₂ hI₂ _ _ => ?_)
  rcases r with e | certChain
  · exact .ret fun _ _ _ => trivial
  refine (cacheInfo_safe_of_ne (by decide) (by decide) _ cacheType hI₂).bind hI₂
    fun r s₃ hI₃ _ ⟨_, hc⟩ => ?_
  rcases r with e | pckCert
  · exact .ret fun _ _ _ => trivial
  obtain ⟨hc₃, n, m, hpc⟩ := hc _ rfl
  have hpf : pckCert.fmspc = pci.fmspc := by rw [hpc, Table.stamped_pckCert_fmspc]
  refine (cacheInfo_safe_of_ne (t := .fmspcTcbInfo) (by decide) (by decide) ft cacheType
    hI₃).bind hI₃ fun r s₄ hI₄ h₄ ⟨_, hf⟩ => ?_
  rcases r with e | ft'
  · exact .ret fun _ _ _ => trivial
  have hc₄ : s₄.HasKey .pckCert platform.qeID := by simpa [Table.key, hq] using h₄ _ _ hc₃
  have hf₄ : s₄.HasKey .fmspcTcbInfo pckCert.fmspc := by
    rw [hpf, ← hft]
    exact (hf _ rfl).1
  refine (cachePlatformInfo_safe { platform with fmspc := pckCert.fmspc } cacheType hI₄ hc₄
    hf₄).bind hI₄ fun r s₅ hI₅ _ ⟨_, hp⟩ => ?_
  rcases r with e | ⟨⟩
  · exact .ret fun _ _ _ => trivial
  dsimp only
  split
  · exact .panic
  refine (cachePlatformTcbInfo_safe _ _ cacheType hI₅ (hp rfl)).bind hI₅ fun r _ _ _ _ => ?_
  rcases r with e | ⟨⟩ <;> exact .ret fun _ _ _ => trivial

/-- `pushChain` under interference keeps the references: its collateral steps write neither
platforms nor platform TCBs. -/
theorem pushChain_safe (lib : Lib) (platformInfo : PlatformInfo) {s : Store} (hs : s.Backed) :
    (pushChain lib platformInfo).Safe Store.Backed (fun _ _ => True) s := by
  refine (getLazyCachePckCert_safe lib _ .cacheInsert hs).bind hs fun r s₁ _ _ _ => ?_
  rcases r with e | ⟨pckCert, platform, ca⟩
  · exact .ret fun _ _ _ => trivial
  exact ((Prog.safe_true _ s₁).backed
    (ensureCollaterals_avoids (by decide) (by decide) (by decide) _ _)
    (ensureCollaterals_avoids (by decide) (by decide) (by decide) _ _)).post fun _ _ _ _ => trivial

/-- `pushPlatformInfo` under interference keeps the references: before the push chain it only
reads. -/
theorem pushPlatformInfo_safe (lib : Lib) (contentLength : Int) (body : String) {s : Store}
    (hs : s.Backed) :
    (pushPlatformInfo lib contentLength body).Safe Store.Backed (fun _ _ => True) s := by
  unfold pushPlatformInfo
  simp only [Prog.pure_bind]
  split
  · exact .ret fun _ _ _ => trivial
  split
  · exact .ret fun _ _ _ => trivial
  rename_i platformInfo _
  rcases validateAll platformInfo.checks with b | m
  · simp only [Prog.ofExit, Prog.ret_bind]
    split
    · exact .ret fun _ _ _ => trivial
    refine (Prog.safe_call (c := .retrieve .platform platformInfo.qeID)
      fun _ _ _ hI _ ho => (Call.outcome_retrieve ho).1 ▸ hI).bind hs fun r s₁ hI₁ _ _ => ?_
    rcases r with err | row
    · refine (pushChain_safe lib platformInfo hI₁).bind hI₁ fun r _ _ _ _ => ?_
      rcases r with err | ⟨⟩ <;> exact .ret fun _ _ _ => trivial
    · exact .ret fun _ _ _ => trivial
  · exact .panic

/-! ## Request threads -/

theorem Prog.ReadOnly.avoids {p : Prog α} (hp : p.ReadOnly) (t : Table) : p.Avoids t := by
  induction p with
  | ret => trivial
  | panic => trivial
  | call c k ih =>
    refine ⟨?_, fun b => ih b (hp.2 b)⟩
    cases c <;> simp_all [Call.IsRead, Prog.ReadOnly, Call.writes]

/-- The handler a request runs, as a thread of the server. -/
def Request.thread (lib : Lib) : Request → Thread
  | .push contentLength body => ⟨pushPlatformInfo lib contentLength body⟩
  | .refresh => ⟨refreshPlatformInfo lib⟩
  | .timer rtype => ⟨refreshPlatformInfoTimer lib rtype⟩
  | .tcbStatus urlQuery => ⟨getTcbStatus lib urlQuery⟩

/-- Every request handler is safe from a store where the references hold. -/
theorem Request.thread_safe (lib : Lib) (req : Request) {s : Store} (hs : s.Backed) :
    ∃ Q, (req.thread lib).prog.Safe Store.Backed Q s := by
  cases req with
  | push contentLength body => exact ⟨_, pushPlatformInfo_safe lib contentLength body hs⟩
  | refresh =>
    exact ⟨_, (Prog.safe_true _ s).backed
      (refreshPlatformInfo_avoids (by decide) (by decide) (by decide) (by decide) lib)
      (refreshPlatformInfo_avoids (by decide) (by decide) (by decide) (by decide) lib)⟩
  | timer rtype =>
    exact ⟨_, (Prog.safe_true _ s).backed
      (refreshPlatformInfoTimer_avoids (by decide) (by decide) (by decide) (by decide) lib rtype)
      (refreshPlatformInfoTimer_avoids (by decide) (by decide) (by decide) (by decide) lib rtype)⟩
  | tcbStatus urlQuery =>
    exact ⟨_, (Prog.safe_true _ s).backed ((getTcbStatus_readOnly lib urlQuery).avoids _)
      ((getTcbStatus_readOnly lib urlQuery).avoids _)⟩

/-- The server with one thread per request, each about to start, over the store `s`. A request
that arrives later is a thread that takes its first step later. -/
def Server.ofRequests (lib : Lib) (reqs : List Request) (s : Store) : Server :=
  ⟨reqs.map (Request.thread lib), s⟩

theorem Server.ofRequests_allSafe (lib : Lib) (reqs : List Request) {s : Store}
    (hs : s.Backed) : (Server.ofRequests lib reqs s).AllSafe Store.Backed := by
  refine ⟨hs, fun i th hi => ?_⟩
  simp only [Server.ofRequests, List.getElem?_map, Option.map_eq_some'] at hi
  obtain ⟨req, -, rfl⟩ := hi
  exact Request.thread_safe lib req hs

/-! ## What every interleaving keeps -/

/-- Over every interleaving of concurrent requests from a store where the references hold, they
hold: each platform has a certificate of its QE-ID and the TCB info of its FMSPC, and each
platform TCB has a platform of its QE-ID. -/
theorem interleaving_keeps_references {lib : Lib} {reqs : List Request} {s : Store}
    {σ : Server} {tr : List (Nat × Option PcsRequest)} (hs : s.Backed)
    (h : Server.Steps (Server.ofRequests lib reqs s) tr σ) :
    (∀ p ∈ σ.store.platforms, (∃ c ∈ σ.store.pckCerts, c.qeID = p.qeID) ∧
      ∃ f ∈ σ.store.fmspcTcbInfos, f.fmspc = p.fmspc) ∧
    ∀ pt ∈ σ.store.platformTcbs, ∃ p ∈ σ.store.platforms, p.qeID = pt.qeID := by
  obtain ⟨hp, ht⟩ := (h.safe (Server.ofRequests_allSafe lib reqs hs)).1.1
  exact ⟨fun p hmem => (hp p hmem).imp Store.hasKey_iff.1 Store.hasKey_iff.1,
    fun pt hmem => Store.hasKey_iff.1 (ht pt hmem)⟩

/-- The two concurrent pushes of `samplePlatform` as requests: the first answers 201. -/
theorem samplePushes_steps :
    ∃ σ tr, Server.Steps (Server.ofRequests (sampleLib sampleTcbm)
        [.push 1 "body", .push 1 "body"] Store.empty) tr σ ∧
      σ.threads[0]? = some ⟨Prog.ret (Reply.written statusCreated
        ⟨"Created", "platform data pushed to scs"⟩)⟩ := by
  obtain ⟨⟨σ, tr⟩, h, heq⟩ := Option.map_eq_some'.1 samplePushes_runSchedule
  refine ⟨σ, tr, Server.runSchedule_steps h, ?_⟩
  rw [show σ.threads = _ from (Prod.mk.inj heq).2]
  rfl

/-- The push of `samplePlatform` from the empty store as the only request: its run to the end
is a run of the server, and it caches the platform. -/
theorem samplePush_steps :
    ∃ σ tr, Server.Steps (Server.ofRequests (sampleLib sampleTcbm) [.push 1 "body"] Store.empty)
      tr σ ∧ σ.store.platforms ≠ [] := by
  obtain ⟨s, h, hne⟩ := samplePush_runWith
  obtain ⟨tr, htr⟩ := (Prog.runWith_runs h).steps
    (show 0 < [(Request.push 1 "body").thread (sampleLib sampleTcbm)].length from
      Nat.zero_lt_succ _)
  exact ⟨_, tr, htr, hne⟩

/-- The two pushes of `samplePlatform` run concurrently: the references hold at the end. -/
theorem interleaving_keeps_references_on_pushes :
    ∃ σ tr, Server.Steps (Server.ofRequests (sampleLib sampleTcbm)
        [.push 1 "body", .push 1 "body"] Store.empty) tr σ ∧
      (∀ p ∈ σ.store.platforms, (∃ c ∈ σ.store.pckCerts, c.qeID = p.qeID) ∧
        ∃ f ∈ σ.store.fmspcTcbInfos, f.fmspc = p.fmspc) ∧
      ∀ pt ∈ σ.store.platformTcbs, ∃ p ∈ σ.store.platforms, p.qeID = pt.qeID := by
  obtain ⟨σ, tr, hs, -⟩ := samplePushes_steps
  exact ⟨σ, tr, hs, interleaving_keeps_references Store.backed_empty hs⟩

/-- The push thread `j`, started with the others over a store where the references hold, in
any interleaving labelled with its exchanges: once it has answered 200 or 201 the store has a
`Platform` row of the pushed QE-ID with its certificate and the TCB info of its FMSPC. Once it
has answered 201, its own first exchange was the `/pckcerts` request of the platform,
`readPckCerts` accepted the reply, and the store has a CRL for that reply's CA type and a QE
identity, whatever the other threads did before or after. -/
theorem interleaved_push_answers {lib : Lib} {reqs : List Request} {s : Store} {σ : Server}
    {tr : List (Nat × List Exchange)} {j : Nat} {contentLength : Int} {body : String}
    {platformInfo : PlatformInfo} {reply : Reply} (hs : s.Backed)
    (hj : reqs[j]? = some (.push contentLength body))
    (hdec : lib.decodePlatformInfo body = .ok platformInfo)
    (h : Server.StepsOn (Server.ofRequests lib reqs s) tr σ)
    (hret : σ.threads[j]? = some ⟨Prog.ret reply⟩) :
    (∀ res, reply = .written statusOK res ∨ reply = .written statusCreated res →
      ∃ p ∈ σ.store.platforms, p.qeID = platformInfo.qeID ∧
        (∃ c ∈ σ.store.pckCerts, c.qeID = p.qeID) ∧
        ∃ f ∈ σ.store.fmspcTcbInfos, f.fmspc = p.fmspc) ∧
    (∀ res, reply = .written statusCreated res → ∃ resp rest,
      Server.exchangesOf j tr = (pckCertsRequest platformInfo.toPlatform, .ok resp) :: rest ∧
      (∃ v, readPckCerts lib platformInfo.toPlatform resp = .ok v) ∧
      (∃ c ∈ σ.store.pckCrls, c.ca = headerGet resp.header "Sgx-Pck-Certificate-Ca-Type" ∨
        headerGet resp.header "Sgx-Pck-Certificate-Ca-Type" = "") ∧
      σ.store.qeIdentities ≠ []) := by
  have hj₀ : (Server.ofRequests lib reqs s).threads[j]? =
      some ⟨pushPlatformInfo lib contentLength body⟩ := by
    simp [Server.ofRequests, hj, Request.thread]
  have hb := ((Server.steps_iff_stepsOn.2 ⟨tr, h, rfl⟩).safe
    (Server.ofRequests_allSafe lib reqs hs)).1.1.1
  obtain ⟨hp, hc⟩ := pushPlatformInfo_runsAmid hdec (h.runsAmid hj₀ hret)
  refine ⟨fun res hres => hb.platform_rows (hp res hres), fun res hres => ?_⟩
  obtain ⟨resp, rest, hxs, hread, hcrl, hqe, -, -⟩ := hc res hres
  obtain ⟨c, hmem, hca⟩ := Table.find_isSome.1 hcrl
  exact ⟨resp, rest, hxs, hread, ⟨c, hmem, hca.symm⟩, hqe⟩

/-- The first of the two concurrent pushes answers 201, with its data in the store. -/
theorem interleaved_push_answers_first_of_two :
    ∃ σ tr, Server.StepsOn (Server.ofRequests (sampleLib sampleTcbm)
        [.push 1 "body", .push 1 "body"] Store.empty) tr σ ∧
      σ.threads[0]? = some ⟨Prog.ret (Reply.written statusCreated
        ⟨"Created", "platform data pushed to scs"⟩)⟩ ∧
      (∀ res, Reply.written statusCreated ⟨"Created", "platform data pushed to scs"⟩ =
          .written statusOK res ∨
        Reply.written statusCreated ⟨"Created", "platform data pushed to scs"⟩ =
          .written statusCreated res →
        ∃ p ∈ σ.store.platforms, p.qeID = sampleInfo.qeID ∧
          (∃ c ∈ σ.store.pckCerts, c.qeID = p.qeID) ∧
          ∃ f ∈ σ.store.fmspcTcbInfos, f.fmspc = p.fmspc) ∧
      (∀ res, Reply.written statusCreated ⟨"Created", "platform data pushed to scs"⟩ =
          .written statusCreated res → ∃ resp rest,
        Server.exchangesOf 0 tr = (pckCertsRequest sampleInfo.toPlatform, .ok resp) :: rest ∧
        (∃ v, readPckCerts (sampleLib sampleTcbm) sampleInfo.toPlatform resp = .ok v) ∧
        (∃ c ∈ σ.store.pckCrls, c.ca = headerGet resp.header "Sgx-Pck-Certificate-Ca-Type" ∨
          headerGet resp.header "Sgx-Pck-Certificate-Ca-Type" = "") ∧
        σ.store.qeIdentities ≠ []) := by
  obtain ⟨σ, tr, hs, hret⟩ := samplePushes_steps
  obtain ⟨tr', h, -⟩ := Server.steps_iff_stepsOn.1 hs
  exact ⟨σ, tr', h, hret, interleaved_push_answers Store.backed_empty rfl rfl h hret⟩

end SgxCachingService
