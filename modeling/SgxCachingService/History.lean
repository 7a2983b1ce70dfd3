/-
  SGX caching service: histories of requests (§4.5, §4.6).

  The handlers and the refresh timer share the repository; here each request runs to its end
  before the next starts. `Reachable lib s`: some history of pushes, refreshes, timer ticks and
  status queries leads from the empty repository to `s`, whatever PCS and the database answer
  on the way, failures included.

  Over every history no keyed table repeats a primary key (`Reachable.keysUnique`), and each
  `Platform` row has the `PckCert` row of its QE-ID and the `FmspcTcbInfo` row of its FMSPC
  (`Reachable.platformsBacked`): a push writes the platform after both, and no request deletes
  a row. The converse does not hold: the FMSPC is `Header.Get` of a reply that may lack the
  header, so a push caches an empty one, and a push that fails after writing the certificate
  leaves it without a platform. A push answers 200 as soon as the `Platform` row is there, so
  after a push that failed on a later collateral its retry answers 200 without the CRL. A TCBM
  that PCS sent too short is stored, and the status query on it panics.

  The push chain (`getLazyCachePckCert` and the collateral chains) is modelled from the spec.
-/
import SgxCachingService.Refresh
import SgxCachingService.TcbStatus

namespace SgxCachingService

/-! ## Requests and histories -/

/-- The requests that reach the repository: a push (its `Content-Length` and body), the refresh
handler, a tick of the refresh timer, and a status query. -/
inductive Request where
  | push (contentLength : Int) (body : String)
  | refresh
  | timer (rtype : String)
  | tcbStatus (urlQuery : List (String × String))
  deriving DecidableEq, Repr

/-- `s'` is a store a run of the request's handler from `s` can leave, whatever it answers. -/
def Request.Runs (lib : Lib) : Request → Store → Store → Prop
  | .push contentLength body, s, s' => ∃ e, (pushPlatformInfo lib contentLength body).Runs s e s'
  | .refresh, s, s' => ∃ e, (refreshPlatformInfo lib).Runs s e s'
  | .timer rtype, s, s' => ∃ e, (refreshPlatformInfoTimer lib rtype).Runs s e s'
  | .tcbStatus urlQuery, s, s' => ∃ e, (getTcbStatus lib urlQuery).Runs s e s'

/-- Reachable from the empty repository by a history of requests. -/
inductive Reachable (lib : Lib) : Store → Prop
  | empty : Reachable lib Store.empty
  | step {s s' : Store} (h : Reachable lib s) (req : Request) (hreq : req.Runs lib s s') :
      Reachable lib s'

/-! ## What every history keeps -/

theorem Request.Runs.platformsBacked {lib : Lib} {req : Request} {s s' : Store}
    (h : req.Runs lib s s') (hs : s.PlatformsBacked) : s'.PlatformsBacked := by
  cases req with
  | push contentLength body =>
    obtain ⟨e, h⟩ := h
    exact pushPlatformInfo_runs h hs
  | refresh =>
    obtain ⟨e, h⟩ := h
    exact hs.of_avoids (refreshPlatformInfo_avoids (by decide) (by decide) (by decide)
      (by decide) lib) h
  | timer rtype =>
    obtain ⟨e, h⟩ := h
    exact hs.of_avoids (refreshPlatformInfoTimer_avoids (by decide) (by decide) (by decide)
      (by decide) lib rtype) h
  | tcbStatus urlQuery =>
    obtain ⟨e, h⟩ := h
    rwa [(getTcbStatus_readOnly lib urlQuery).runs_eq h]

theorem Reachable.platformsBacked {lib : Lib} {s : Store} (h : Reachable lib s) :
    s.PlatformsBacked := by
  induction h with
  | empty => exact fun _ hp => nomatch hp
  | step _ _ hreq ih => exact hreq.platformsBacked ih

theorem Request.Runs.keysUnique {lib : Lib} {req : Request} {s s' : Store}
    (h : req.Runs lib s s') (hs : s.KeysUnique) : s'.KeysUnique := by
  cases req <;> obtain ⟨e, h⟩ := h <;> exact h.keysUnique hs

/-- No history makes two rows of a keyed table share a primary key. -/
theorem Reachable.keysUnique {lib : Lib} {s : Store} (h : Reachable lib s) : s.KeysUnique := by
  induction h with
  | empty => exact Store.keysUnique_empty
  | step _ _ hreq ih => exact hreq.keysUnique ih

/-- A key in a table is a row with that key. -/
theorem Store.hasKey_iff {s : Store} {t : Table} {k : String} :
    s.HasKey t k ↔ ∃ r ∈ s.rows t, t.key r = k :=
  List.mem_map

set_option maxRecDepth 20000 in
/-- The first push of `samplePlatform` creates it, PCS naming FMSPC `f`. -/
theorem samplePush_runWith :
    ∃ s, (pushPlatformInfo (sampleLib sampleTcbm) 1 "body").runWith 5
        [.ok (samplePckCerts "f"), .ok (okResponse [] "tcb"), .ok (okResponse [] "crl"),
          .ok (okResponse [] "qe")] Store.empty =
      some (.returned (.written statusCreated ⟨"Created", "platform data pushed to scs"⟩), s) ∧
      s.platforms ≠ [] :=
  ⟨_, rfl, nofun⟩

/-- Over every history, a push that answers 200 or 201 leaves a `Platform` row with the pushed
QE-ID, with a certificate of that QE-ID and the TCB info of the platform's FMSPC. One that answers
201 got, at its first exchange, a `/pckcerts` reply that `readPckCerts` accepted, and leaves a CRL
of the CA type that reply names (some CRL, when it names none) and a QE identity. -/
theorem pushPlatformInfo_answers {lib : Lib} {contentLength : Int} {body : String}
    {xs : List Exchange} {s s' : Store} {r : Reply} (hs : Reachable lib s)
    (h : (pushPlatformInfo lib contentLength body).RunsOn xs s (.returned r) s')
    (platformInfo : PlatformInfo) (hdec : lib.decodePlatformInfo body = .ok platformInfo) :
    (∀ res, r = .written statusOK res ∨ r = .written statusCreated res →
      ∃ p ∈ s'.platforms, p.qeID = platformInfo.qeID ∧
        (∃ c ∈ s'.pckCerts, c.qeID = p.qeID) ∧ ∃ f ∈ s'.fmspcTcbInfos, f.fmspc = p.fmspc) ∧
    (∀ res, r = .written statusCreated res →
      ∃ resp rest, xs = (pckCertsRequest platformInfo.toPlatform, .ok resp) :: rest ∧
        (∃ v, readPckCerts lib platformInfo.toPlatform resp = .ok v) ∧
        (∃ c ∈ s'.pckCrls, c.ca = headerGet resp.header "Sgx-Pck-Certificate-Ca-Type" ∨
          headerGet resp.header "Sgx-Pck-Certificate-Ca-Type" = "") ∧
        s'.qeIdentities ≠ []) := by
  obtain ⟨hp, hc⟩ := pushPlatformInfo_runsAmid hdec h.amid
  have hs' : Reachable lib s' := .step hs (.push contentLength body) ⟨_, h.runs⟩
  refine ⟨fun res hres => hs'.platformsBacked.platform_rows (hp res hres), fun res hres => ?_⟩
  obtain ⟨resp, rest, hxs, hread, hcrl, hqe, -, -⟩ := hc res hres
  obtain ⟨c, hmem, hca⟩ := Table.find_isSome.1 hcrl
  exact ⟨resp, rest, hxs, hread, ⟨c, hmem, hca.symm⟩, hqe⟩

theorem pushPlatformInfo_answers_first_push :
    ∃ xs s', (pushPlatformInfo (sampleLib sampleTcbm) 1 "body").RunsOn xs Store.empty
        (.returned (.written statusCreated ⟨"Created", "platform data pushed to scs"⟩)) s' ∧
      (∀ res, Reply.written statusCreated ⟨"Created", "platform data pushed to scs"⟩ =
          .written statusOK res ∨
        Reply.written statusCreated ⟨"Created", "platform data pushed to scs"⟩ =
          .written statusCreated res →
        ∃ p ∈ s'.platforms, p.qeID = sampleInfo.qeID ∧
          (∃ c ∈ s'.pckCerts, c.qeID = p.qeID) ∧ ∃ f ∈ s'.fmspcTcbInfos, f.fmspc = p.fmspc) ∧
      (∀ res, Reply.written statusCreated ⟨"Created", "platform data pushed to scs"⟩ =
          .written statusCreated res →
        ∃ resp rest, xs = (pckCertsRequest sampleInfo.toPlatform, .ok resp) :: rest ∧
          (∃ v, readPckCerts (sampleLib sampleTcbm) sampleInfo.toPlatform resp = .ok v) ∧
          (∃ c ∈ s'.pckCrls, c.ca = headerGet resp.header "Sgx-Pck-Certificate-Ca-Type" ∨
            headerGet resp.header "Sgx-Pck-Certificate-Ca-Type" = "") ∧
          s'.qeIdentities ≠ []) := by
  obtain ⟨s', h, -⟩ := samplePush_runWith
  obtain ⟨xs, hx⟩ := (Prog.runWith_runs h).runsOn
  exact ⟨xs, s', hx, pushPlatformInfo_answers .empty hx sampleInfo rfl⟩

set_option maxRecDepth 20000 in
/-- A push that fails at the CRL after writing the platform, then the same push again: the retry
answers 200, and the store has neither a CRL nor a QE identity. -/
theorem retried_push_answers_without_crl :
    ∃ s, Reachable (sampleLib sampleTcbm) s ∧
      (pushPlatformInfo (sampleLib sampleTcbm) 1 "body").runWith 7 [] s =
        some (.returned (.written statusOK ⟨"Success", "platform info already cached"⟩), s) ∧
      s.pckCrls = [] ∧ s.qeIdentities = [] := by
  obtain ⟨s, h₁, h₂, hl⟩ : ∃ s,
      (pushPlatformInfo (sampleLib sampleTcbm) 1 "body").runWith 5
        [.ok (samplePckCerts "f"), .ok (okResponse [] "tcb"), .error "connection reset"]
        Store.empty =
        some (.returned (.resourceError "connection reset" statusInternalServerError), s) ∧
      (pushPlatformInfo (sampleLib sampleTcbm) 1 "body").runWith 7 [] s =
        some (.returned (.written statusOK ⟨"Success", "platform info already cached"⟩), s) ∧
      s.pckCrls = [] ∧ s.qeIdentities = [] :=
    ⟨_, rfl, rfl, rfl, rfl⟩
  exact ⟨s, .step .empty (.push 1 "body") ⟨_, Prog.runWith_runs h₁⟩, h₂, hl⟩

/-! ## A short TCBM -/

set_option maxRecDepth 20000 in
/-- PCS sends a TCBM of two bytes; the push stores it, and the status query for the platform
slices the decoded TCBM at sixteen bytes and panics. -/
theorem tcbStatus_panics_on_short_tcbm :
    ∃ s, (pushPlatformInfo (sampleLib "0000") 1 "body").runWith 5
        [.ok (samplePckCerts "f"), .ok (okResponse [] "tcb"), .ok (okResponse [] "crl"),
          .ok (okResponse [] "qe")] Store.empty =
        some (.returned (.written statusCreated ⟨"Created", "platform data pushed to scs"⟩), s) ∧
      (getTcbStatus (sampleLib "0000") [("qeid", samplePlatform.qeID)]).runWith 6 [] s =
        some (.panicked "slice bounds out of range [:16] with capacity 8", s) :=
  ⟨_, rfl, rfl⟩

end SgxCachingService
