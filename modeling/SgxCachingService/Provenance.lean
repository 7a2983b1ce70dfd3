/-
  SGX caching service: what the cached rows carry (§4.3, §4.5, §4.6).

  Model. A `RowCondition` is a condition on the rows of `Platform` and `PckCert`, the two
  tables a push and a certificate refresh write with what they fetched: every row of the other
  tables meets it, and the timestamps the cache writers stamp do not change it.
  `Prog.WritesWithin R p`: every `Create` and `Update` on every path of `p` writes a row that
  meets `R`; such a program keeps `Store.RowsIn R` (every row meets `R`) whatever the other
  threads do. A push and a certificate refresh of a platform write within `R` when `R` admits
  the platform under any FMSPC and every certificate record the fetch returns for it
  (`RowCondition.Admits`); the collateral refreshes and the status query write neither table.
  Two conditions are checked this way:
  * `RowCondition.qeIDs K`, the row's QE-ID is in `K`: the certificate of a `/pckcerts`
    response has the QE-ID the request named (`readPckCerts_qeID`); a push asks for the QE-ID
    of the body it decoded, and a certificate refresh for those of the `Platform` rows it read;
  * `RowCondition.certIndexInRange`, a certificate's `CertIndex` names one of its `Tcbms`: the
    certificates and the TCBMs are copied side by side (`pckCertLists_length`), and the index
    is one the selector chose among those certificates, lowered by `uint8`
    (`getBestPckCert_index_lt`).

  Proved:
  * `interleaving_keeps_qeIDs_pushed`: over every interleaving of concurrent requests, every
    QE-ID with a `Platform` or a `PckCert` row in the store had one at the start or is the QE-ID
    of a push body among the requests. No handler invents a platform.
  * `interleaving_keeps_cert_index_in_range`: over every interleaving, when the DCAP library
    keeps its contract, every cached certificate's `CertIndex` names one of its TCBMs.
-/
import SgxCachingService.Interference

namespace SgxCachingService

/-! ## Conditions on the rows -/

/-- A condition on the rows of the tables a push and a certificate refresh write with what they
fetched, `Platform` and `PckCert`: every row of the other tables meets it, and the timestamps the
cache writers stamp do not change it. -/
structure RowCondition where
  holds : (t : Table) → t.Row → Prop
  stamped : ∀ t row cacheType n m, holds t row → holds t (t.stamped row cacheType n m)
  other : ∀ t, t ≠ .platform → t ≠ .pckCert → ∀ x, holds t x

/-- Every row of `s` meets `R`. -/
def Store.RowsIn (R : RowCondition) (s : Store) : Prop :=
  ∀ t, ∀ x ∈ s.rows t, R.holds t x

/-- `c` writes only a row that meets `R`. -/
def Call.WritesWithin (R : RowCondition) : Call β → Prop
  | .create t r => R.holds t r
  | .update t r => R.holds t r
  | _ => True

/-- Every `Create` and `Update` that `p` makes, whatever the answers it gets, writes a row that
meets `R`. -/
def Prog.WritesWithin (R : RowCondition) : Prog α → Prop
  | .ret _ => True
  | .panic _ => True
  | .call c k => c.WritesWithin R ∧ ∀ b, (k b).WritesWithin R

section
variable {R : RowCondition}

theorem Prog.WritesWithin.bind {p : Prog α} {f : α → Prog β} (hp : p.WritesWithin R)
    (hf : ∀ a, (f a).WritesWithin R) : (p >>= f).WritesWithin R := by
  induction p with
  | ret a => exact hf a
  | panic m => trivial
  | call c k ih => exact ⟨hp.1, fun b => ih b (hp.2 b)⟩

/-- A program that writes neither `Platform` nor `PckCert` rows writes within every condition. -/
theorem Prog.Avoids.writesWithin {p : Prog α} (hp : p.Avoids .platform) (hc : p.Avoids .pckCert) :
    p.WritesWithin R := by
  induction p with
  | ret a => trivial
  | panic m => trivial
  | call c k ih =>
    refine ⟨?_, fun b => ih b (hp.2 b) (hc.2 b)⟩
    cases c <;> first
      | trivial
      | exact R.other _ (fun h => hp.1 (congrArg some h)) (fun h => hc.1 (congrArg some h)) _

/-- After a program that only asks PCS, the continuation needs to write within `R` only for the
values its sequential runs return. -/
theorem Prog.UpstreamOnly.writesWithin_bind {P : α → Prop} {p : Prog α} {f : α → Prog β}
    (hp : p.UpstreamOnly) (hP : ∀ s a s', p.Runs s (.returned a) s' → P a)
    (hf : ∀ a, P a → (f a).WritesWithin R) : (p >>= f).WritesWithin R := by
  induction p with
  | ret a => exact hf a (hP .empty a .empty (.ret a _))
  | panic m => trivial
  | call c k ih =>
    refine ⟨?_, fun b => ih b (hp.2 b) fun s a s' h => hP s a s' (.call (hp.1.outcome.2 rfl) h)⟩
    cases c <;> first | trivial | exact hp.1.elim

/-- A row after a call that writes within `R` was there before or meets `R`. -/
theorem Call.Outcome.mem_rows_within {c : Call β} {s s' : Store} {b : β} (ho : c.Outcome s b s')
    (hw : c.WritesWithin R) {t : Table} {x : t.Row} (hx : x ∈ s'.rows t) :
    x ∈ s.rows t ∨ R.holds t x := by
  by_cases hc : c.writes = some t
  · cases c with
    | create t' r =>
      obtain rfl : t' = t := Option.some.inj hc
      exact (ho.mem_create hx).imp_right fun (hxr : x = r) => hxr ▸ hw
    | update t' r =>
      obtain rfl : t' = t := Option.some.inj hc
      exact (ho.mem_update hx).imp_right fun (hxr : x = r) => hxr ▸ hw
    | _ => cases hc
  · exact .inl (ho.rows_eq hc ▸ hx)

theorem Store.RowsIn.of_outcome {c : Call β} {s s' : Store} {b : β} (hs : s.RowsIn R)
    (ho : c.Outcome s b s') (hw : c.WritesWithin R) : s'.RowsIn R :=
  fun t x hx => (ho.mem_rows_within hw hx).elim (hs t x) id

/-- A program that writes within `R` keeps `Store.RowsIn R` whatever the other threads do. -/
theorem Prog.WritesWithin.safe {p : Prog α} (hp : p.WritesWithin R) (s : Store) :
    p.Safe (Store.RowsIn R) (fun _ s' => s.Keeps s') s := by
  induction p generalizing s with
  | ret a => exact .ret fun _ _ h => h
  | panic m => exact .panic
  | call c k ih =>
    exact .call (fun _ _ _ hI _ ho => hI.of_outcome ho hp.1) fun _ b s₂ _ h₁ ho =>
      (ih b (hp.2 b) s₂).post fun _ _ _ h => h₁.trans (ho.keeps.trans h)

end

/-! ## A push and a certificate refresh write what they fetched -/

/-- What a push or a certificate refresh of `platform` needs of `R`: the platform under any
FMSPC, and every certificate record the fetch returns for it under any chain `ID`. -/
def RowCondition.Admits (R : RowCondition) (lib : Lib) (platform : Platform) : Prop :=
  (∀ fmspc, R.holds .platform { platform with fmspc := fmspc }) ∧
  ∀ s r s', (fetchPckCertInfo lib platform).Runs s (.returned (.ok r)) s' →
    ∀ id, R.holds .pckCert { r.1 with pckCertChainID := id }

section
variable {R : RowCondition}

theorem cacheInfo_writesWithin (t : Table) (row : t.Row) (h : R.holds t row)
    (cacheType : CacheType) : (cacheInfo t row cacheType).WritesWithin R := by
  refine ⟨trivial, fun n => ?_⟩
  cases cacheType with
  | cacheRefresh =>
    exact ⟨R.stamped t row .cacheRefresh n 0 h, fun b => by rcases b with _ | ⟨⟩ <;> trivial⟩
  | cacheInsert => exact ⟨trivial, fun m => ⟨R.stamped t row .cacheInsert n m h, fun _ => trivial⟩⟩

/-- `getLazyCachePckCert` writes the certificate it fetched and the platform it was given, and
no other `Platform` or `PckCert` row. -/
theorem getLazyCachePckCert_writesWithin (lib : Lib) (platform : Platform)
    (cacheType : CacheType) (h : R.Admits lib platform) :
    (getLazyCachePckCert lib platform cacheType).WritesWithin R := by
  refine (fetchPckCertInfo_upstreamOnly lib platform).writesWithin_bind
    (P := fun r => ∀ x, r = .ok x → ∀ id, R.holds .pckCert { x.1 with pckCertChainID := id })
    (fun s _ s' hr x hx => h.2 s x s' (hx ▸ hr)) fun r hr => ?_
  rcases r with e | ⟨pci, ft, chain, ca⟩
  · trivial
  refine (Prog.Avoids.writesWithin (cachePckCertChainInfo_avoids _ chain cacheType)
    (cachePckCertChainInfo_avoids _ chain cacheType)).bind fun r => ?_
  rcases r with e | certChain
  · trivial
  refine (cacheInfo_writesWithin .pckCert _ (hr _ rfl certChain.id) cacheType).bind fun r => ?_
  rcases r with e | pckCert
  · trivial
  refine (cacheInfo_writesWithin .fmspcTcbInfo ft (R.other _ (by decide) (by decide) ft)
    cacheType).bind fun r => ?_
  rcases r with e | ft'
  · trivial
  refine Prog.WritesWithin.bind (Prog.WritesWithin.bind
    (cacheInfo_writesWithin .platform _ (h.1 pckCert.fmspc) cacheType) fun _ => trivial) fun r => ?_
  rcases r with e | ⟨⟩
  · trivial
  dsimp only
  split
  · trivial
  exact (Prog.Avoids.writesWithin (cachePlatformTcbInfo_avoids (by decide) _ _ _)
    (cachePlatformTcbInfo_avoids (by decide) _ _ _)).bind fun r => by
      rcases r with _ | ⟨⟩ <;> trivial

theorem pushChain_writesWithin (lib : Lib) (platformInfo : PlatformInfo)
    (h : R.Admits lib platformInfo.toPlatform) : (pushChain lib platformInfo).WritesWithin R := by
  refine (getLazyCachePckCert_writesWithin lib _ .cacheInsert h).bind fun r => ?_
  rcases r with e | ⟨_, platform, ca⟩
  · trivial
  exact Prog.Avoids.writesWithin (ensureCollaterals_avoids (by decide) (by decide) (by decide) _ _)
    (ensureCollaterals_avoids (by decide) (by decide) (by decide) _ _)

/-- A push writes within `R` once the body it decoded has passed its checks, if `R` admits that
body's platform. -/
theorem pushPlatformInfo_writesWithin (lib : Lib) (contentLength : Int) (body : String)
    (h : ∀ platformInfo, lib.decodePlatformInfo body = .ok platformInfo →
      validateAll platformInfo.checks = .returned true → R.Admits lib platformInfo.toPlatform) :
    (pushPlatformInfo lib contentLength body).WritesWithin R := by
  unfold pushPlatformInfo
  simp only [Prog.pure_bind]
  split
  · trivial
  split
  · trivial
  rename_i platformInfo hdec
  rcases hv : validateAll platformInfo.checks with b | m
  swap
  · trivial
  simp only [Prog.ofExit, Prog.ret_bind]
  split
  · trivial
  rename_i hnb
  obtain rfl : b = true := by simpa using hnb
  refine ⟨trivial, fun r => ?_⟩
  rcases r with err | row
  · exact (pushChain_writesWithin lib platformInfo (h _ hdec hv)).bind fun r => by
      rcases r with _ | ⟨⟩ <;> trivial
  · trivial

/-- A certificate refresh writes only the certificate it fetched. -/
theorem refreshPckCert_writesWithin (lib : Lib) (platform : Platform) (h : R.Admits lib platform) :
    (refreshPckCert lib platform).WritesWithin R := by
  refine (fetchPckCertInfo_upstreamOnly lib platform).writesWithin_bind
    (P := fun r => ∀ x, r = .ok x → R.holds .pckCert x.1)
    (fun s _ s' hr x hx => h.2 s x s' (hx ▸ hr) x.1.pckCertChainID) fun r hr => ?_
  rcases r with e | ⟨pci, ft, chain, ca⟩
  · trivial
  exact (cacheInfo_writesWithin .pckCert pci (hr _ rfl) _).bind
    fun r => by rcases r with _ | _ <;> trivial

theorem refreshWalk_writesWithin {item : α → Prog (Except String Unit)} :
    ∀ {xs : List α}, (∀ x ∈ xs, (item x).WritesWithin R) → (refreshWalk item xs).WritesWithin R
  | [], _ => trivial
  | x :: rest, h => (h x (List.mem_cons_self _ _)).bind fun r => by
    rcases r with _ | ⟨⟩
    exacts [trivial, refreshWalk_writesWithin fun y hy => h y (List.mem_cons_of_mem _ hy)]

end

theorem Call.outcome_retrieveAll {t : Table} {s s' : Store} {rows : List t.Row}
    (h : (Call.retrieveAll t).Outcome s (.ok rows) s') : rows = s.rows t := by
  rcases h with h | ⟨⟨m, hm⟩, -⟩
  · simp only [Call.exec, Option.some.injEq, Prod.mk.injEq, Except.ok.injEq] at h
    exact h.1.symm
  · cases hm

/-- `RetrieveAll` under interference: the rows it returns are the rows of a store where the
invariant held. -/
theorem retrieveAllRows_safe {I : Store → Prop} (t : Table) (s : Store) :
    (retrieveAllRows t).Safe I
      (fun rows s' => s.Keeps s' ∧ ∃ s₁, I s₁ ∧ ∀ x ∈ rows, x ∈ s₁.rows t) s := by
  refine .call (fun _ _ _ hI _ ho => ho.eq_of_isRead (by trivial) ▸ hI) fun s₁ b s₂ hI₁ h₁ ho => ?_
  have h₂ := h₁.trans ho.keeps
  rcases b with err | rows
  · exact .ret fun _ _ h => ⟨h₂.trans h, s₁, hI₁, nofun⟩
  · exact .ret fun _ _ h => ⟨h₂.trans h, s₁, hI₁, fun x hx => Call.outcome_retrieveAll ho ▸ hx⟩

/-- `R` admits the platforms of every store where it holds: what a certificate refresh needs,
since it refreshes the platforms it reads. -/
def RowCondition.AdmitsStored (R : RowCondition) (lib : Lib) : Prop :=
  ∀ s : Store, s.RowsIn R → ∀ p ∈ s.platforms, R.Admits lib p

section
variable (lib : Lib) {R : RowCondition}

/-- The certificate walk under interference: it reads the platforms from a store where `R`
holds, and writes within `R`. -/
theorem refreshPckCerts_rowsIn (hA : R.AdmitsStored lib) {s : Store} (hs : s.RowsIn R) :
    (refreshPckCerts lib).Safe (Store.RowsIn R) (fun _ s' => s.Keeps s') s := by
  refine (retrieveAllRows_safe .platform s).bind hs fun rows s₁ _ h₁ ⟨_, s₀, hI₀, hrows⟩ => ?_
  dsimp only
  split
  · exact .ret fun _ _ h => h₁.trans h
  exact ((refreshWalk_writesWithin fun p hp => refreshPckCert_writesWithin lib p
    (hA s₀ hI₀ p (hrows p hp))).safe s₁).post fun _ _ _ h => h₁.trans h

theorem refreshNonPCKCollaterals_rowsIn (s : Store) :
    refreshNonPCKCollaterals.Safe (Store.RowsIn R) (fun _ s' => s.Keeps s') s :=
  (Prog.Avoids.writesWithin (refreshNonPCKCollaterals_avoids (by decide) (by decide) (by decide))
    (refreshNonPCKCollaterals_avoids (by decide) (by decide) (by decide))).safe s

theorem refreshPlatformInfo_rowsIn (hA : R.AdmitsStored lib) {s : Store} (hs : s.RowsIn R) :
    (refreshPlatformInfo lib).Safe (Store.RowsIn R) (fun _ s' => s.Keeps s') s := by
  refine (refreshPckCerts_rowsIn lib hA hs).bind hs fun r s₁ _ h₁ _ => ?_
  rcases r with e | ⟨⟩
  · exact .ret fun _ _ h => h₁.trans h
  refine (refreshNonPCKCollaterals_rowsIn s₁).bind ‹_› fun r s₂ _ h₂ _ => ?_
  rcases r with e | ⟨⟩ <;> exact .ret fun _ _ h => h₁.trans (h₂.trans h)

theorem refreshPlatformInfoTimer_rowsIn (hA : R.AdmitsStored lib) (rtype : String) {s : Store}
    (hs : s.RowsIn R) :
    (refreshPlatformInfoTimer lib rtype).Safe (Store.RowsIn R) (fun _ s' => s.Keeps s') s := by
  unfold refreshPlatformInfoTimer
  split_ifs
  · exact refreshPckCerts_rowsIn lib hA hs
  · exact refreshNonPCKCollaterals_rowsIn s
  · exact .ret fun _ _ h => h

/-- Every request's thread keeps `Store.RowsIn R` under interference, when `R` admits the
platforms of every store where it holds and the platform of each push body that decodes and
passes its checks. -/
theorem Request.thread_rowsIn (hA : R.AdmitsStored lib) (req : Request)
    (hpush : ∀ contentLength body platformInfo, req = .push contentLength body →
      lib.decodePlatformInfo body = .ok platformInfo →
      validateAll platformInfo.checks = .returned true → R.Admits lib platformInfo.toPlatform)
    {s : Store} (hs : s.RowsIn R) : ∃ Q, (req.thread lib).prog.Safe (Store.RowsIn R) Q s := by
  cases req with
  | push contentLength body =>
    exact ⟨_, (pushPlatformInfo_writesWithin lib contentLength body (hpush _ _ · rfl)).safe s⟩
  | refresh => exact ⟨_, refreshPlatformInfo_rowsIn lib hA hs⟩
  | timer rtype => exact ⟨_, refreshPlatformInfoTimer_rowsIn lib hA rtype hs⟩
  | tcbStatus urlQuery =>
    exact ⟨_, (Prog.Avoids.writesWithin ((getTcbStatus_readOnly lib urlQuery).avoids _)
      ((getTcbStatus_readOnly lib urlQuery).avoids _)).safe s⟩

theorem Server.ofRequests_allSafe_rowsIn (reqs : List Request) (hA : R.AdmitsStored lib)
    (hpush : ∀ contentLength body platformInfo, Request.push contentLength body ∈ reqs →
      lib.decodePlatformInfo body = .ok platformInfo →
      validateAll platformInfo.checks = .returned true → R.Admits lib platformInfo.toPlatform)
    {s : Store} (hs : s.RowsIn R) : (Server.ofRequests lib reqs s).AllSafe (Store.RowsIn R) := by
  refine ⟨hs, fun i th hi => ?_⟩
  simp only [Server.ofRequests, List.getElem?_map, Option.map_eq_some'] at hi
  obtain ⟨req, hreq, rfl⟩ := hi
  exact Request.thread_rowsIn lib hA req
    (fun _ _ _ he => hpush _ _ _ (he ▸ List.getElem?_mem hreq)) hs

end

/-! ## Every cached QE-ID is allowed -/

/-- Every `Platform` row and every `PckCert` row of `s` has a QE-ID that `K` allows. -/
def Store.QeIDsIn (K : String → Prop) (s : Store) : Prop :=
  (∀ p ∈ s.platforms, K p.qeID) ∧ ∀ c ∈ s.pckCerts, K c.qeID

/-- A `Platform` or `PckCert` row has a QE-ID that `K` allows. -/
def RowCondition.qeIDs (K : String → Prop) : RowCondition where
  holds t x := t = .platform ∨ t = .pckCert → K (t.key x)
  stamped _ _ _ _ _ h ht := by simpa using h ht
  other _ h₁ h₂ _ ht := (ht.elim h₁ h₂).elim

theorem Store.qeIDsIn_iff {K : String → Prop} {s : Store} :
    s.QeIDsIn K ↔ s.RowsIn (.qeIDs K) :=
  ⟨fun h t x hx ht => by rcases ht with rfl | rfl; exacts [h.1 x hx, h.2 x hx],
    fun h => ⟨fun p hp => h .platform p hp (.inl rfl), fun c hc => h .pckCert c hc (.inr rfl)⟩⟩

/-- A platform whose QE-ID `K` allows is admitted: the fetch asks for its QE-ID's certificates. -/
theorem RowCondition.qeIDs_admits {K : String → Prop} (lib : Lib) {platform : Platform}
    (h : K platform.qeID) : (RowCondition.qeIDs K).Admits lib platform :=
  ⟨fun _ _ => h, fun _ r _ hr _ _ =>
    show K r.1.qeID from (fetchPckCertInfo_qeID hr r.1 r.2.1 r.2.2.1 r.2.2.2 rfl).symm ▸ h⟩

/-- The QE-ID of a push body among the requests. -/
def Request.PushedQeID (lib : Lib) (reqs : List Request) (q : String) : Prop :=
  ∃ contentLength body platformInfo, Request.push contentLength body ∈ reqs ∧
    lib.decodePlatformInfo body = .ok platformInfo ∧ platformInfo.qeID = q

/-- Every thread keeps `Store.QeIDsIn K` under interference, when `K` allows the QE-ID of each
push body that decodes and passes its checks. -/
theorem Server.ofRequests_allSafe_qeIDsIn (lib : Lib) (reqs : List Request) {K : String → Prop}
    (hK : ∀ contentLength body platformInfo, Request.push contentLength body ∈ reqs →
      lib.decodePlatformInfo body = .ok platformInfo →
      validateAll platformInfo.checks = .returned true → K platformInfo.qeID)
    {s : Store} (hs : s.QeIDsIn K) :
    (Server.ofRequests lib reqs s).AllSafe (Store.RowsIn (.qeIDs K)) :=
  Server.ofRequests_allSafe_rowsIn lib reqs
    (fun _ hs p hp => RowCondition.qeIDs_admits lib (hs .platform p hp (.inl rfl)))
    (fun _ _ _ hmem hd hv => RowCondition.qeIDs_admits lib (hK _ _ _ hmem hd hv))
    (Store.qeIDsIn_iff.1 hs)

/-- Over every interleaving of concurrent requests, every QE-ID with a `Platform` or `PckCert`
row in the store had one at the start or is the QE-ID of a push body among the requests. -/
theorem interleaving_keeps_qeIDs_pushed {lib : Lib} {reqs : List Request} {s : Store}
    {σ : Server} {tr : List (Nat × Option PcsRequest)}
    (h : Server.Steps (Server.ofRequests lib reqs s) tr σ) :
    σ.store.QeIDsIn fun q => q ∈ s.platforms.map (·.qeID) ∨ q ∈ s.pckCerts.map (·.qeID) ∨
      Request.PushedQeID lib reqs q :=
  Store.qeIDsIn_iff.2 (h.safe (Server.ofRequests_allSafe_qeIDsIn lib reqs
    (fun contentLength body pi hmem hpi _ => .inr (.inr ⟨contentLength, body, pi, hmem, hpi, rfl⟩))
    ⟨fun _ hp => .inl (List.mem_map_of_mem _ hp),
      fun _ hc => .inr (.inl (List.mem_map_of_mem _ hc))⟩)).1.1

/-- The two sample pushes from the empty store: every cached QE-ID is the pushed one's. -/
theorem interleaving_keeps_qeIDs_pushed_on_pushes :
    ∃ σ tr, Server.Steps (Server.ofRequests (sampleLib sampleTcbm)
        [.push 1 "body", .push 1 "body"] Store.empty) tr σ ∧
      σ.store.QeIDsIn fun q => q ∈ Store.empty.platforms.map (·.qeID) ∨
        q ∈ Store.empty.pckCerts.map (·.qeID) ∨
        Request.PushedQeID (sampleLib sampleTcbm) [.push 1 "body", .push 1 "body"] q := by
  obtain ⟨σ, tr, hs, -⟩ := samplePushes_steps
  exact ⟨σ, tr, hs, interleaving_keeps_qeIDs_pushed hs⟩

/-! ## Every cached certificate index is in range -/

/-- The `CertIndex` of a `PckCert` row names one of its `Tcbms`; the other tables carry no
index. -/
def Table.CertIndexInRange : (t : Table) → t.Row → Prop
  | .pckCert, c => c.certIndex.toNat < c.tcbms.length
  | _, _ => True

def RowCondition.certIndexInRange : RowCondition where
  holds := Table.CertIndexInRange
  stamped t _ cacheType _ _ h := by cases t <;> cases cacheType <;> exact h
  other t _ _ _ := by cases t <;> trivial

theorem Store.rowsIn_certIndexInRange {s : Store} :
    s.RowsIn .certIndexInRange ↔ ∀ c ∈ s.pckCerts, c.certIndex.toNat < c.tcbms.length :=
  ⟨fun h => h .pckCert, fun h t x hx => by cases t <;> first | trivial | exact h x hx⟩

/-- Under the library's contract every platform is admitted: a fetched record's index is in
range (`fetchPckCertInfo_certIndex_lt`), and a chain `ID` does not move it. -/
theorem RowCondition.certIndexInRange_admits {lib : Lib} (hlib : lib.SelectorContract)
    (platform : Platform) : RowCondition.certIndexInRange.Admits lib platform :=
  ⟨fun _ => trivial, fun _ _ _ hr _ => fetchPckCertInfo_certIndex_lt hlib hr⟩

theorem Server.ofRequests_allSafe_certIndex {lib : Lib} (hlib : lib.SelectorContract)
    (reqs : List Request) {s : Store}
    (hs : ∀ c ∈ s.pckCerts, c.certIndex.toNat < c.tcbms.length) :
    (Server.ofRequests lib reqs s).AllSafe (Store.RowsIn .certIndexInRange) :=
  Server.ofRequests_allSafe_rowsIn lib reqs
    (fun _ _ p _ => RowCondition.certIndexInRange_admits hlib p)
    (fun _ _ _ _ _ _ => RowCondition.certIndexInRange_admits hlib _)
    (Store.rowsIn_certIndexInRange.2 hs)

/-- Over every interleaving of concurrent requests, from a store where every cached
certificate's `CertIndex` names one of its TCBMs, every cached certificate's does, when the DCAP
library keeps its contract: a push and a certificate refresh store the index the selector chose
among the very certificates whose TCBMs they store beside them. -/
theorem interleaving_keeps_cert_index_in_range {lib : Lib} (hlib : lib.SelectorContract)
    {reqs : List Request} {s : Store} {σ : Server} {tr : List (Nat × Option PcsRequest)}
    (hs : ∀ c ∈ s.pckCerts, c.certIndex.toNat < c.tcbms.length)
    (h : Server.Steps (Server.ofRequests lib reqs s) tr σ) :
    ∀ c ∈ σ.store.pckCerts, c.certIndex.toNat < c.tcbms.length :=
  Store.rowsIn_certIndexInRange.1 (h.safe (Server.ofRequests_allSafe_certIndex hlib reqs hs)).1.1

/-- The two sample pushes from the empty store, whose library keeps its contract. -/
theorem interleaving_keeps_cert_index_in_range_on_pushes :
    (sampleLib sampleTcbm).SelectorContract ∧
      ∃ σ tr, Server.Steps (Server.ofRequests (sampleLib sampleTcbm)
          [.push 1 "body", .push 1 "body"] Store.empty) tr σ ∧
        ∀ c ∈ σ.store.pckCerts, c.certIndex.toNat < c.tcbms.length := by
  obtain ⟨σ, tr, hs, -⟩ := samplePushes_steps
  refine ⟨Lib.fixed_selectorContract _ _ _ _, σ, tr, hs,
    interleaving_keeps_cert_index_in_range (Lib.fixed_selectorContract _ _ _ _) ?_ hs⟩
  exact fun _ h => nomatch h

end SgxCachingService
