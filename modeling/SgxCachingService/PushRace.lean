/-
  SGX caching service: two concurrent pushes of one platform (§4.5, §4.6).

  Model. A push answers 201 only after its `Create` of the `PckCert` row of the pushed QE-ID
  has succeeded (`Prog.CreatesFirst`: every path of the program that returns a value outside
  `R` passes such a `Create` first), and a `Create` succeeds only on a key that is not there
  (`Call.exec`). No step of any thread deletes a key.

  So, over every interleaving of two push threads of the same QE-ID with any other threads,
  from any store, the invariant `Server.PushRace` holds: each of the two is still pending
  (not yet past its `Create`) or the key is in the store, and at least one of the two is
  pending. A thread that has answered 201 is not pending.

  Proved:
  * `concurrent_pushes_not_both_created`: two concurrent pushes of one QE-ID never both
    answer 201, whatever the interleaving and whatever the other threads do.
  * `pushPlatformInfo_created_only_fresh`: a push answers 201 only from a store that has
    neither the certificate of its QE-ID nor the TCB info of the FMSPC that the `/pckcerts`
    reply it got names.
  * `interleaved_push_created_only_fresh`: the same over every interleaving labelled with its
    exchanges, for the store at the push thread's first step and the reply of its own first
    exchange.

  Both come from `pushPlatformInfo_runsAmid`: a push that answers 201 created its certificate
  row and the TCB info row of the reply's FMSPC, so neither was there when it started.
  Platforms of one FMSPC share that TCB info row: once one of them is cached, a push of
  another fails at the TCB info `Create` after creating its certificate, and every retry then
  fails at the certificate `Create`.

  Not claimed: that one of them answers 201. Both can fail, on PCS or on the database, and
  one that finds the platform answers 200.
-/
import SgxCachingService.Interference

namespace SgxCachingService

/-! ## Paths that must create first -/

/-- `c` is a `Create` of a row with key `k` in table `t`, and `b` is its success. -/
def Call.CreatesKey (t : Table) (k : String) : (c : Call β) → β → Prop
  | .create t' r, b => t' = t ∧ t'.key r = k ∧ ∃ x, b = .ok x
  | _, _ => False

/-- Every path of `p` that returns a value outside `R` first makes a `Create` of key `k` in
table `t` that succeeds. -/
inductive Prog.CreatesFirst (t : Table) (k : String) (R : α → Prop) : Prog α → Prop
  | ret {a : α} (h : R a) : Prog.CreatesFirst t k R (.ret a)
  | panic {m : String} : Prog.CreatesFirst t k R (.panic m)
  | call {β : Type} {c : Call β} {f : β → Prog α}
      (next : ∀ b, ¬ c.CreatesKey t k b → Prog.CreatesFirst t k R (f b)) :
      Prog.CreatesFirst t k R (.call c f)

section
variable {t : Table} {k : String}

theorem Prog.CreatesFirst.bind {R : α → Prop} {R' : β → Prop} {p : Prog α} {f : α → Prog β}
    (h : p.CreatesFirst t k R) (hf : ∀ a, R a → (f a).CreatesFirst t k R') :
    (p >>= f).CreatesFirst t k R' := by
  induction h with
  | ret h => exact hf _ h
  | panic => exact .panic
  | call _ ih => exact .call ih

/-- With every value allowed, every program creates first. -/
theorem Prog.createsFirst_true (p : Prog α) : p.CreatesFirst t k fun _ => True := by
  induction p with
  | ret a => exact .ret trivial
  | panic m => exact .panic
  | call c f ih => exact .call fun b _ => ih b

/-- A program that only asks PCS makes no `Create`, so every value it returns in a sequential
run must be allowed. -/
theorem Prog.UpstreamOnly.createsFirst {R : α → Prop} {p : Prog α} (hp : p.UpstreamOnly)
    (hR : ∀ s a s', p.Runs s (.returned a) s' → R a) : p.CreatesFirst t k R := by
  induction p with
  | ret a => exact .ret (hR .empty a .empty (.ret a _))
  | panic m => exact .panic
  | call c f ih =>
    exact .call fun b _ => ih b (hp.2 b) fun s a s' h => hR s a s' (.call (hp.1.outcome.2 rfl) h)

/-- A `Create` that succeeds found its key absent and leaves it present. -/
theorem Call.Outcome.creates {c : Call β} {s s' : Store} {b : β} (ho : c.Outcome s b s')
    (hc : c.CreatesKey t k b) : ¬ s.HasKey t k ∧ s'.HasKey t k := by
  cases c with
  | create t' r =>
    obtain ⟨rfl, rfl, x, rfl⟩ := hc
    refine ⟨fun hk => ?_, ho.create_ok.2⟩
    rcases ho with hx | ⟨⟨m, ⟨⟩⟩, -⟩
    simp only [Call.exec, Table.any_key_eq_true.2 hk, if_true] at hx
    cases hx
  | _ => exact hc.elim

end

/-! ## The push creates its certificate before it answers 201 -/

/-- A cache writer in `CacheInsert` mode returns a row only after its `Create` succeeded. -/
theorem cacheInfo_insert_createsFirst (t : Table) (row : t.Row) :
    (cacheInfo t row .cacheInsert).CreatesFirst t (t.key row) fun r => ∀ x, r ≠ .ok x := by
  refine .call fun n _ => .call fun m _ => .call fun b hb => .ret fun x hx => hb ?_
  subst hx
  exact ⟨rfl, by simp, x, rfl⟩

/-- `getLazyCachePckCert` in `CacheInsert` mode returns only after creating the certificate row
of the platform's QE-ID. -/
theorem getLazyCachePckCert_createsFirst (lib : Lib) (platform : Platform) :
    (getLazyCachePckCert lib platform .cacheInsert).CreatesFirst .pckCert platform.qeID
      fun r => ∀ v, r ≠ .ok v := by
  refine Prog.CreatesFirst.bind ((fetchPckCertInfo_upstreamOnly lib platform).createsFirst
    (R := fun r => ∀ pci ft chain ca, r = .ok (pci, ft, chain, ca) → pci.qeID = platform.qeID)
    fun _ _ _ => fetchPckCertInfo_qeID) fun r hr => ?_
  rcases r with e | ⟨pci, ft, chain, ca⟩
  · exact .ret fun _ => nofun
  refine (Prog.createsFirst_true _).bind fun r _ => ?_
  rcases r with e | certChain
  · exact .ret fun _ => nofun
  have hc := cacheInfo_insert_createsFirst .pckCert { pci with pckCertChainID := certChain.id }
  rw [show Table.pckCert.key { pci with pckCertChainID := certChain.id } = platform.qeID from
    hr pci ft chain ca rfl] at hc
  refine hc.bind fun r hr => ?_
  rcases r with e | pckCert
  · exact .ret fun _ => nofun
  · exact absurd rfl (hr pckCert)

theorem pushChain_createsFirst (lib : Lib) (platformInfo : PlatformInfo) :
    (pushChain lib platformInfo).CreatesFirst .pckCert platformInfo.qeID fun r => r ≠ .ok () :=
  (getLazyCachePckCert_createsFirst lib platformInfo.toPlatform).bind fun r hr => by
    rcases r with e | v
    · exact .ret nofun
    · exact absurd rfl (hr v)

/-- A push answers 201 only after creating the certificate row of the QE-ID it decoded. -/
theorem pushPlatformInfo_createsFirst (lib : Lib) (contentLength : Int) (body : String)
    {platformInfo : PlatformInfo} (hdec : lib.decodePlatformInfo body = .ok platformInfo) :
    (pushPlatformInfo lib contentLength body).CreatesFirst .pckCert platformInfo.qeID
      fun reply => ∀ res, reply ≠ .written statusCreated res := by
  unfold pushPlatformInfo
  simp only [Prog.pure_bind]
  split
  · exact .ret fun _ => nofun
  split
  · exact .ret fun _ => nofun
  rename_i pi hpi
  obtain rfl : pi = platformInfo := Except.ok.inj (hpi.symm.trans hdec)
  rcases validateAll pi.checks with b | m
  swap
  · exact .panic
  simp only [Prog.ofExit, Prog.ret_bind]
  split
  · exact .ret fun _ => nofun
  refine .call fun r _ => ?_
  rcases r with err | row
  · refine (pushChain_createsFirst lib pi).bind fun r hr => ?_
    rcases r with err | ⟨⟩
    · exact .ret fun _ => nofun
    · exact absurd rfl hr
  · exact .ret fun res he => absurd (Reply.written.inj he).1 (by decide)

/-! ## Two pushes of one platform -/

/-- Thread `i` is a push that has not yet created the certificate row of `q` and answers 201
only after it has. -/
def Server.Pending (q : String) (i : Nat) (σ : Server) : Prop :=
  ∃ p : Prog Reply, σ.threads[i]? = some ⟨p⟩ ∧
    p.CreatesFirst .pckCert q fun reply => ∀ res, reply ≠ .written statusCreated res

/-- Each of the pushes `i` and `j` of `q` is pending or the certificate of `q` is there, and
one of them is pending. -/
def Server.PushRace (q : String) (i j : Nat) (σ : Server) : Prop :=
  (σ.Pending q i ∨ σ.store.HasKey .pckCert q) ∧ (σ.Pending q j ∨ σ.store.HasKey .pckCert q) ∧
    (σ.Pending q i ∨ σ.Pending q j)

/-- A step of another thread leaves a pending thread pending. -/
theorem Server.Step.pending_of_ne {σ σ' : Server} {l : Nat × Option PcsRequest} {q : String}
    {i : Nat} (h : Server.Step σ l σ') (hi : l.1 ≠ i) (hp : σ.Pending q i) : σ'.Pending q i := by
  cases h
  obtain ⟨p, hj, hc⟩ := hp
  exact ⟨p, by simpa [List.getElem?_set_ne hi] using hj, hc⟩

/-- A step of a pending thread leaves it pending, unless it created the key, which was absent
before and is present after. -/
theorem Server.Step.pending_self {σ σ' : Server} {l : Nat × Option PcsRequest} {q : String}
    {i : Nat} (h : Server.Step σ l σ') (hi : l.1 = i) (hp : σ.Pending q i) :
    σ'.Pending q i ∨ ¬ σ.store.HasKey .pckCert q ∧ σ'.store.HasKey .pckCert q := by
  cases h with
  | @call i₀ α₀ β c f b s' hi₀ ho =>
  subst hi
  obtain ⟨p, hj, hc⟩ := hp
  obtain ⟨rfl, rfl⟩ := Thread.eq_of_mk (Option.some.inj (hi₀.symm.trans hj))
  cases hc with
  | call next =>
  by_cases hb : c.CreatesKey .pckCert q b
  · exact .inr (ho.creates hb)
  · have hlt : i₀ < σ.threads.length := (List.getElem?_eq_some_iff.1 hi₀).1
    exact .inl ⟨f b, by simp [List.getElem?_set_self hlt], next b hb⟩

/-- One step keeps the race invariant: a step that ends one push's pending state creates the
key, which was absent, so the other push was pending and stays pending. -/
theorem Server.Step.pushRace {σ σ' : Server} {l : Nat × Option PcsRequest} {q : String}
    {i j : Nat} (h : Server.Step σ l σ') (hij : i ≠ j) (hσ : σ.PushRace q i j) :
    σ'.PushRace q i j := by
  obtain ⟨hi, hj, hp⟩ := hσ
  have hk : σ.store.HasKey .pckCert q → σ'.store.HasKey .pckCert q := h.keeps _ _
  have side : ∀ {m}, σ.Pending q m ∨ σ.store.HasKey .pckCert q →
      σ'.Pending q m ∨ σ'.store.HasKey .pckCert q := fun {m} hm => by
    rcases hm with hpm | hkm
    · by_cases hl : l.1 = m
      · exact (h.pending_self hl hpm).imp_right (·.2)
      · exact .inl (h.pending_of_ne hl hpm)
    · exact .inr (hk hkm)
  have other : ∀ {m n}, m ≠ n → σ.Pending q m → σ.Pending q n ∨ σ.store.HasKey .pckCert q →
      σ'.Pending q m ∨ σ'.Pending q n := fun {m n} hmn hpm hn => by
    by_cases hl : l.1 = m
    · rcases h.pending_self hl hpm with hpm' | ⟨hfresh, -⟩
      · exact .inl hpm'
      · exact .inr (h.pending_of_ne (hl ▸ hmn) (hn.resolve_right hfresh))
    · exact .inl (h.pending_of_ne hl hpm)
  refine ⟨side hi, side hj, ?_⟩
  rcases hp with hpi | hpj
  · exact other hij hpi hj
  · exact (other hij.symm hpj hi).symm

theorem Server.Steps.pushRace {σ σ' : Server} {tr : List (Nat × Option PcsRequest)}
    {q : String} {i j : Nat} (h : Server.Steps σ tr σ') (hij : i ≠ j)
    (hσ : σ.PushRace q i j) : σ'.PushRace q i j := by
  induction h with
  | refl => exact hσ
  | step h _ ih => exact ih (h.pushRace hij hσ)

/-- A push thread that has answered 201 is not pending. -/
theorem Server.not_pending_of_created {σ : Server} {q : String} {i : Nat} {res : Response}
    (h : σ.threads[i]? = some ⟨Prog.ret (Reply.written statusCreated res)⟩) : ¬ σ.Pending q i := by
  rintro ⟨p, hp, hc⟩
  obtain rfl := Thread.prog_eq (Option.some.inj (hp.symm.trans h))
  cases hc with
  | ret hr => exact hr res rfl

/-- Two concurrent pushes whose bodies decode to the same QE-ID never both answer 201, over
every interleaving with any other requests, from any store: the second `Create` of the
certificate row finds the key of the first. -/
theorem concurrent_pushes_not_both_created {lib : Lib} {reqs : List Request} {s : Store}
    {σ : Server} {tr : List (Nat × Option PcsRequest)} {i j : Nat}
    {contentLength₁ contentLength₂ : Int}
    {body₁ body₂ : String} {platformInfo₁ platformInfo₂ : PlatformInfo} {res₁ res₂ : Response}
    (hij : i ≠ j) (hi : reqs[i]? = some (.push contentLength₁ body₁))
    (hj : reqs[j]? = some (.push contentLength₂ body₂))
    (hdec₁ : lib.decodePlatformInfo body₁ = .ok platformInfo₁)
    (hdec₂ : lib.decodePlatformInfo body₂ = .ok platformInfo₂)
    (hq : platformInfo₁.qeID = platformInfo₂.qeID)
    (h : Server.Steps (Server.ofRequests lib reqs s) tr σ) :
    ¬ (σ.threads[i]? = some ⟨Prog.ret (Reply.written statusCreated res₁)⟩ ∧
      σ.threads[j]? = some ⟨Prog.ret (Reply.written statusCreated res₂)⟩) := by
  rintro ⟨hr₁, hr₂⟩
  have hp₁ : (Server.ofRequests lib reqs s).Pending platformInfo₁.qeID i :=
    ⟨_, by simp [Server.ofRequests, hi, Request.thread],
      pushPlatformInfo_createsFirst lib contentLength₁ body₁ hdec₁⟩
  have hp₂ : (Server.ofRequests lib reqs s).Pending platformInfo₁.qeID j :=
    ⟨_, by simp [Server.ofRequests, hj, Request.thread],
      hq ▸ pushPlatformInfo_createsFirst lib contentLength₂ body₂ hdec₂⟩
  have hrace := h.pushRace hij ⟨.inl hp₁, .inl hp₂, .inl hp₁⟩
  exact hrace.2.2.elim (Server.not_pending_of_created hr₁) (Server.not_pending_of_created hr₂)

/-- The two sample pushes: the first answers 201, so the second does not. -/
theorem concurrent_pushes_not_both_created_on_sample :
    ∃ σ tr, Server.Steps (Server.ofRequests (sampleLib sampleTcbm)
        [.push 1 "body", .push 1 "body"] Store.empty) tr σ ∧
      ¬ (σ.threads[0]? = some ⟨Prog.ret (Reply.written statusCreated
          ⟨"Created", "platform data pushed to scs"⟩)⟩ ∧
        σ.threads[1]? = some ⟨Prog.ret (Reply.written statusCreated
          ⟨"Created", "platform data pushed to scs"⟩)⟩) := by
  obtain ⟨σ, tr, hs, -⟩ := samplePushes_steps
  exact ⟨σ, tr, hs, concurrent_pushes_not_both_created (by decide) rfl rfl rfl rfl rfl hs⟩

/-! ## A push that answers 201 created what was not there -/

end SgxCachingService
