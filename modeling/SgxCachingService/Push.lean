/-
  SGX caching service: `pushPlatformInfo` (§4.5, "Push platform").

  After authorization the handler checks the body's length, decodes it, validates five fields,
  answers 200 when a `Platform` row for the QE-ID is already there, and otherwise runs the
  fetch-and-cache chain in `CacheInsert` mode: `getLazyCachePckCert`, then a CRL for the CA type,
  the TCB info for the platform's FMSPC and the QE identity, each fetched only when the
  repository has none. Any failure in the chain answers 500 and leaves what was written.

  `pushPlatformInfo_runs`: every run keeps each platform backed by its certificate and TCB info.
  `pushPlatformInfo_runsAmid` says what each answer means, for a push among other threads
  (`Prog.RunsAmid`, of which a push alone is the case where the others do nothing). After 200 or
  201 the store has a `Platform` row of the QE-ID. After 201 the push's first exchange was the
  `/pckcerts` request, `readPckCerts` accepted its reply, the store has a CRL for that reply's CA
  type and a QE identity, and the store the push started from had neither the certificate of
  the QE-ID nor the TCB info of the reply's FMSPC. `pushPlatformInfo_bad_request` lists the
  three ways to a 400, none of which writes.
-/
import SgxCachingService.Cache
import SgxCachingService.Validation

namespace SgxCachingService

/-- The `Platform` row `pushPlatformInfo` builds from the request body. -/
def PlatformInfo.toPlatform (p : PlatformInfo) : Platform :=
  { encppid := p.encPpid, cpuSvn := p.cpuSvn, pceSvn := p.pceSvn, pceID := p.pceID,
    qeID := p.qeID, manifest := p.manifest, fmspc := "", createdTime := 0, updatedTime := 0 }

/-- `existing, err := Retrieve(…); if existing == nil { _, err = getLazyCache…(…) }`: a
collateral is fetched and cached only when the repository has none. -/
def ensureCached (retrieve : Call (Except String β)) (lazyCache : Prog (Except String γ)) :
    Prog (Except String Unit) := do
  match ← query retrieve with
  | .ok _ => return .ok ()
  | .error _ =>
    match ← lazyCache with
    | .error err => return .error err
    | .ok _ => return .ok ()

/-- The collateral steps of a push after the certificates: the CRL of their CA type, the TCB
info of the platform's FMSPC and the QE identity, each fetched when `Retrieve` finds none. -/
def ensureCollaterals (platform : Platform) (ca : String) : Prog (Except String Unit) := do
  match ← ensureCached (.retrieve .pckCrl ca) (getLazyCachePckCrl ca .cacheInsert) with
  | .error err => return .error err
  | .ok () =>
  match ← ensureCached (.retrieve .fmspcTcbInfo platform.fmspc)
      (getLazyCacheFmspcTcbInfo platform.fmspc .cacheInsert) with
  | .error err => return .error err
  | .ok () => ensureCached (.retrieve .qeIdentity "") (getLazyCacheQEIdentityInfo .cacheInsert)

/-- The fetch-and-cache chain of a push in `CacheInsert` mode (§4.5, step 3): the
certificates with everything `getLazyCachePckCert` persists, then the collaterals. -/
def pushChain (lib : Lib) (platformInfo : PlatformInfo) : Prog (Except String Unit) := do
  match ← getLazyCachePckCert lib platformInfo.toPlatform .cacheInsert with
  | .error err => return .error err
  | .ok (_, platform, ca) => ensureCollaterals platform ca

/-- `pushPlatformInfo` after authorization, on the request's `Content-Length` and body. -/
def pushPlatformInfo (lib : Lib) (contentLength : Int) (body : String) : Prog Reply := do
  if contentLength = 0 then
    return .resourceError "platform data not provided" statusBadRequest
  match lib.decodePlatformInfo body with
  | .error err => return .resourceError err statusBadRequest
  | .ok platformInfo =>
  if !(← Prog.ofExit (validateAll platformInfo.checks)) then
    return .resourceError "invalid query param data" statusBadRequest
  match ← query (.retrieve .platform platformInfo.qeID) with
  | .ok _ => return .written statusOK ⟨"Success", "platform info already cached"⟩
  | .error _ =>
  match ← pushChain lib platformInfo with
  | .error err => return .resourceError err statusInternalServerError
  | .ok () => return .written statusCreated ⟨"Created", "platform data pushed to scs"⟩

/-! ## What a push leaves in the store -/

theorem ensureCached_avoids {t : Table} {retrieve : Call (Except String β)}
    {lazyCache : Prog (Except String γ)} (hr : retrieve.writes ≠ some t)
    (hl : lazyCache.Avoids t) : (ensureCached retrieve lazyCache).Avoids t :=
  Prog.Avoids.bind (query_avoids hr) fun r => by
    rcases r with _ | _
    · exact Prog.Avoids.bind hl fun r => by rcases r with _ | _ <;> trivial
    · trivial

/-- When `ensureCached` returns among other threads, `Retrieve` finds a row under its key,
provided the lazy-cache chain leaves one whenever it returns. -/
theorem ensureCached_runsAmid_ok {t : Table} {k : String} {lazyCache : Prog (Except String γ)}
    {xs : List Exchange} {s s' : Store}
    (h : (ensureCached (.retrieve t k) lazyCache).RunsAmid xs s (.returned (.ok ())) s')
    (hl : ∀ {xs s₁ v s₂}, lazyCache.RunsAmid xs s₁ (.returned (.ok v)) s₂ → s₂.HasKey t k) :
    (t.find (s'.rows t) k).isSome := by
  rcases Prog.runsAmid_bind h with ⟨r, s₁, xs₁, xs₂, -, h₁, h₂⟩ | ⟨m, h₁, ⟨⟩⟩
  obtain ⟨s₀, b, s₂, -, ho, hk₂, -, hb⟩ := query_runsAmid h₁
  obtain ⟨rfl, hfind⟩ := Call.outcome_retrieve ho
  cases hb
  rcases r with err | row
  · rcases Prog.runsAmid_bind h₂ with ⟨r, s₃, xs₃, xs₄, -, h₃, h₄⟩ | ⟨m, h₃, ⟨⟩⟩
    rcases r with err' | v
    · cases (Prog.runsAmid_pure.1 h₄).2.1
    · obtain ⟨x, hx, hxk⟩ := List.mem_map.1 ((Prog.runsAmid_pure.1 h₄).2.2 _ _ (hl h₃))
      exact Table.find_isSome.2 ⟨x, hx, .inr hxk⟩
  · exact (hk₂.trans (Prog.runsAmid_pure.1 h₂).2.2).find_isSome (by rw [hfind row rfl]; rfl)

theorem ensureCollaterals_avoids {t : Table} (hcrl : Table.pckCrl ≠ t)
    (htcb : Table.fmspcTcbInfo ≠ t) (hqe : Table.qeIdentity ≠ t) (platform : Platform)
    (ca : String) : (ensureCollaterals platform ca).Avoids t := by
  refine Prog.Avoids.bind (ensureCached_avoids (by simp [Call.writes])
    (getLazyCachePckCrl_avoids hcrl _ _)) fun r => ?_
  rcases r with _ | ⟨⟩
  · trivial
  refine Prog.Avoids.bind (ensureCached_avoids (by simp [Call.writes])
    (getLazyCacheFmspcTcbInfo_avoids htcb _ _)) fun r => ?_
  rcases r with _ | ⟨⟩
  · trivial
  exact ensureCached_avoids (by simp [Call.writes]) (getLazyCacheQEIdentityInfo_avoids hqe _)

/-- When the collateral steps return among other threads, `Retrieve` finds the CRL of the CA
type, and the QE identity table has a row. -/
theorem ensureCollaterals_runsAmid_ok {platform : Platform} {ca : String} {xs : List Exchange}
    {s s' : Store} (h : (ensureCollaterals platform ca).RunsAmid xs s (.returned (.ok ())) s') :
    (Table.pckCrl.find s'.pckCrls ca).isSome ∧ s'.qeIdentities ≠ [] := by
  obtain ⟨⟨⟩, s₁, _, _, -, h₁, h⟩ := Prog.runsAmid_bind_ok h fun _ => rfl
  have hcrl := ensureCached_runsAmid_ok h₁ getLazyCachePckCrl_runsAmid_ok
  obtain ⟨⟨⟩, s₂, _, _, -, h₂, h⟩ := Prog.runsAmid_bind_ok h fun _ => rfl
  obtain ⟨r, hr, -⟩ := Table.find_isSome.1
    (ensureCached_runsAmid_ok h getLazyCacheQEIdentityInfo_runsAmid_ok)
  exact ⟨(h₂.keeps.trans h.keeps).find_isSome hcrl, List.ne_nil_of_mem hr⟩

/-- The runs of `pushChain` keep every platform backed. -/
theorem pushChain_runs {lib : Lib} {platformInfo : PlatformInfo} {s s' : Store}
    {e : Exit (Except String Unit)} (h : (pushChain lib platformInfo).Runs s e s')
    (hs : s.PlatformsBacked) : s'.PlatformsBacked := by
  rcases Prog.runs_bind_ok h fun _ => rfl with ⟨⟨pckCert, platform, ca⟩, s₁, h₁, h⟩ | ⟨⟨_, h₁⟩, -⟩
  · exact (getLazyCachePckCert_runs h₁ hs).of_avoids
      (ensureCollaterals_avoids (by decide) (by decide) (by decide) platform ca) h
  · exact getLazyCachePckCert_runs h₁ hs

/-- The runs of `pushPlatformInfo` keep every platform backed: before the push chain it only
reads. -/
theorem pushPlatformInfo_runs {lib : Lib} {contentLength : Int} {body : String} {s s' : Store}
    {e : Exit Reply} (h : (pushPlatformInfo lib contentLength body).Runs s e s')
    (hs : s.PlatformsBacked) : s'.PlatformsBacked := by
  unfold pushPlatformInfo at h
  simp only [Prog.pure_bind] at h
  split at h
  · rwa [(Prog.runs_pure.1 h).2]
  split at h
  · rwa [(Prog.runs_pure.1 h).2]
  obtain ⟨b, s₁, h₁, hv⟩ | ⟨m, h₁, -⟩ := Prog.runs_bind.1 h
  swap
  · rwa [(Prog.runs_ofExit.1 h₁).2]
  obtain ⟨-, rfl⟩ := Prog.runs_ofExit.1 h₁
  split at hv
  · rwa [(Prog.runs_pure.1 hv).2]
  obtain ⟨r, s₂, h₂, hr⟩ | ⟨m, h₂, -⟩ := Prog.runs_bind.1 hv
  swap
  · simp at h₂
  obtain ⟨_, ho, -⟩ := query_runs.1 h₂
  obtain ⟨rfl, -⟩ := Call.outcome_retrieve ho
  rcases r with err | row
  · obtain ⟨_, h₃⟩ := Prog.runs_bind_pure hr fun r => by rcases r with _ | ⟨⟩ <;> exact ⟨_, rfl⟩
    exact pushChain_runs h₃ hs
  · rwa [(Prog.runs_pure.1 hr).2]

/-- Under the references, a `Platform` row of `q` comes with the certificate of `q` and the TCB
info of its FMSPC. -/
theorem Store.PlatformsBacked.platform_rows {s : Store} (hs : s.PlatformsBacked) {q : String}
    (hq : s.HasKey .platform q) :
    ∃ p ∈ s.platforms, p.qeID = q ∧ (∃ c ∈ s.pckCerts, c.qeID = p.qeID) ∧
      ∃ f ∈ s.fmspcTcbInfos, f.fmspc = p.fmspc := by
  obtain ⟨p, hmem, hpq⟩ := List.mem_map.1 hq
  exact ⟨p, hmem, hpq, (hs p hmem).imp List.mem_map.1 List.mem_map.1⟩

/-- A push chain that returns among other threads got, at its first exchange, a `/pckcerts`
reply `readPckCerts` accepted, and leaves a `Platform` row of the QE-ID, a CRL that `Retrieve`
finds for that reply's CA type and a QE identity; the store it started from had neither the
certificate of the QE-ID nor the TCB info of the reply's FMSPC. -/
theorem pushChain_runsAmid_ok {lib : Lib} {platformInfo : PlatformInfo} {xs : List Exchange}
    {s s' : Store} (h : (pushChain lib platformInfo).RunsAmid xs s (.returned (.ok ())) s') :
    ∃ resp rest pckCertInfo pckCertChain ca,
      xs = (pckCertsRequest platformInfo.toPlatform, .ok resp) :: rest ∧
      readPckCerts lib platformInfo.toPlatform resp = .ok (pckCertInfo, pckCertChain, ca) ∧
      s'.HasKey .platform platformInfo.qeID ∧
      (Table.pckCrl.find s'.pckCrls ca).isSome ∧ s'.qeIdentities ≠ [] ∧
      ¬ s.HasKey .pckCert platformInfo.qeID ∧ ¬ s.HasKey .fmspcTcbInfo pckCertInfo.fmspc := by
  obtain ⟨⟨pckCert, platform, ca⟩, s₁, xs₁, xs₂, rfl, h₁, h₂⟩ :=
    Prog.runsAmid_bind_ok h fun _ => rfl
  obtain ⟨resp, rest, pckCertInfo, chain, rfl, hread, -, hp, hfresh⟩ :=
    getLazyCachePckCert_runsAmid_ok h₁
  obtain ⟨hcrl, hqe⟩ := ensureCollaterals_runsAmid_ok h₂
  exact ⟨resp, _, pckCertInfo, chain, ca, rfl, hread, h₂.keeps _ _ hp, hcrl, hqe, hfresh rfl⟩

/-- What a push answers, among other threads. After 200 or 201 a `Platform` row of the QE-ID it
decoded is in the store. After 201 its first exchange was the `/pckcerts` request of the
platform and `readPckCerts` accepted the reply; the store has a CRL that `Retrieve` finds for
that reply's CA type and a QE identity; and the store the push started from had neither the
certificate of the QE-ID nor the TCB info of the reply's FMSPC. -/
theorem pushPlatformInfo_runsAmid {lib : Lib} {contentLength : Int} {body : String}
    {platformInfo : PlatformInfo} {xs : List Exchange} {s s' : Store} {r : Reply}
    (hdec : lib.decodePlatformInfo body = .ok platformInfo)
    (h : (pushPlatformInfo lib contentLength body).RunsAmid xs s (.returned r) s') :
    (∀ res, r = .written statusOK res ∨ r = .written statusCreated res →
      s'.HasKey .platform platformInfo.qeID) ∧
    (∀ res, r = .written statusCreated res → ∃ resp rest,
      xs = (pckCertsRequest platformInfo.toPlatform, .ok resp) :: rest ∧
      (∃ v, readPckCerts lib platformInfo.toPlatform resp = .ok v) ∧
      (Table.pckCrl.find s'.pckCrls
        (headerGet resp.header "Sgx-Pck-Certificate-Ca-Type")).isSome ∧
      s'.qeIdentities ≠ [] ∧ ¬ s.HasKey .pckCert platformInfo.qeID ∧
      ¬ s.HasKey .fmspcTcbInfo (headerGet resp.header "Sgx-Fmspc")) := by
  unfold pushPlatformInfo at h
  simp only [Prog.pure_bind, hdec] at h
  split at h
  · obtain ⟨-, ⟨⟩, -⟩ := Prog.runsAmid_pure.1 h
    simp
  rcases Prog.runsAmid_bind h with ⟨b, s₁, xs₁, xs₂, rfl, h₁, h₂⟩ | ⟨m, -, ⟨⟩⟩
  obtain ⟨rfl, hb, hk₁⟩ := Prog.runsAmid_ofExit.1 h₁
  split at h₂
  · obtain ⟨-, ⟨⟩, -⟩ := Prog.runsAmid_pure.1 h₂
    simp
  rename_i hnb
  obtain rfl : b = true := by simpa using hnb
  rcases Prog.runsAmid_bind h₂ with ⟨q, s₂, xs₃, xs₄, rfl, h₃, h₄⟩ | ⟨m, -, ⟨⟩⟩
  obtain ⟨s₀, b', s₃, hk₀, ho, hk₃, rfl, hq'⟩ := query_runsAmid h₃
  obtain ⟨rfl, hfind⟩ := Call.outcome_retrieve ho
  cases hq'
  rcases q with err | row
  · rcases Prog.runsAmid_bind h₄ with ⟨c, s₄, xs₅, xs₆, rfl, h₅, h₆⟩ | ⟨m, -, ⟨⟩⟩
    rcases c with err | ⟨⟩
    · obtain ⟨-, ⟨⟩, -⟩ := Prog.runsAmid_pure.1 h₆
      simp
    obtain ⟨rfl, ⟨⟩, hk₆⟩ := Prog.runsAmid_pure.1 h₆
    obtain ⟨resp, rest, pckCertInfo, chain, ca, rfl, hread, hp, hcrl, hqe, hc, hf⟩ :=
      pushChain_runsAmid_ok ((h₅.of_keeps (hk₁.trans (hk₀.trans hk₃))).then_keeps hk₆)
    obtain ⟨-, -, ⟨_, _, -, -, rfl⟩, -, rfl⟩ := readPckCerts_eq_ok.1 hread
    exact ⟨fun _ _ => hp, fun _ _ => ⟨resp, _, rfl, ⟨_, hread⟩, hcrl, hqe, hc, hf⟩⟩
  · have hq : platformInfo.qeID ≠ "" := fun h0 => by
      simpa [h0] using PlatformInfo.qeID_length_of_checks hb.symm
    obtain ⟨hmem, hkey⟩ := Table.find_eq_some (hfind row rfl) hq
    obtain ⟨-, ⟨⟩, hk₄⟩ := Prog.runsAmid_pure.1 h₄
    exact ⟨fun _ _ => (hk₃.trans hk₄) _ _ (hkey ▸ List.mem_map_of_mem _ hmem),
      by simp [statusOK, statusCreated]⟩

/-- A push answered 400 changed nothing, and its message says why: no body, the decoder's error,
or a field that fails its pattern. -/
theorem pushPlatformInfo_bad_request {lib : Lib} {contentLength : Int} {body : String}
    {s s' : Store} {msg : String}
    (h : (pushPlatformInfo lib contentLength body).Runs s
      (.returned (.resourceError msg statusBadRequest)) s') :
    s' = s ∧ (contentLength = 0 ∧ msg = "platform data not provided" ∨
      lib.decodePlatformInfo body = .error msg ∨
      ∃ platformInfo, lib.decodePlatformInfo body = .ok platformInfo ∧
        validateAll platformInfo.checks = .returned false ∧ msg = "invalid query param data") := by
  unfold pushPlatformInfo at h
  simp only [Prog.pure_bind] at h
  split at h
  · obtain ⟨he, rfl⟩ := Prog.runs_pure.1 h
    cases he
    exact ⟨rfl, .inl ⟨‹_›, rfl⟩⟩
  split at h
  · obtain ⟨he, rfl⟩ := Prog.runs_pure.1 h
    cases he
    exact ⟨rfl, .inr (.inl ‹_›)⟩
  rename_i platformInfo hdec
  obtain ⟨b, s₁, h₁, hv⟩ | ⟨m, h₁, ⟨⟩⟩ := Prog.runs_bind.1 h
  obtain ⟨hb, rfl⟩ := Prog.runs_ofExit.1 h₁
  split at hv
  · obtain ⟨he, rfl⟩ := Prog.runs_pure.1 hv
    cases he
    rename_i hnb
    obtain rfl : b = false := by simpa using hnb
    exact ⟨rfl, .inr (.inr ⟨platformInfo, hdec, hb.symm, rfl⟩)⟩
  obtain ⟨r, s₂, h₂, hr⟩ | ⟨m, h₂, ⟨⟩⟩ := Prog.runs_bind.1 hv
  obtain ⟨r', ho, hr'⟩ := query_runs.1 h₂
  rcases Exit.returned.inj hr' with rfl
  rcases r with err | row
  · obtain ⟨r, s₃, h₃, hc⟩ | ⟨m, h₃, ⟨⟩⟩ := Prog.runs_bind.1 hr
    rcases r with err | ⟨⟩ <;> obtain ⟨he, -⟩ := Prog.runs_pure.1 hc <;>
      simp [statusBadRequest, statusInternalServerError] at he
  · obtain ⟨he, -⟩ := Prog.runs_pure.1 hr
    cases he

/-- A body whose fields are all blank: the push answers 400 and changes nothing, and the message
is the validation's, the encrypted PPID failing its pattern. -/
theorem pushPlatformInfo_bad_request_on_blank_fields :
    (pushPlatformInfo (Lib.fixed ⟨"", "", "", "", "", ""⟩ [] ⟨⟨[]⟩⟩ 0) 1 "body").Runs Store.empty
        (.returned (.resourceError "invalid query param data" statusBadRequest)) Store.empty ∧
      ∃ platformInfo, validateAll platformInfo.checks = .returned false ∧
        (Lib.fixed ⟨"", "", "", "", "", ""⟩ [] ⟨⟨[]⟩⟩ 0).decodePlatformInfo "body" =
          .ok platformInfo := by
  have hrun : (pushPlatformInfo (Lib.fixed ⟨"", "", "", "", "", ""⟩ [] ⟨⟨[]⟩⟩ 0) 1 "body").runWith
      0 [] Store.empty =
      some (.returned (.resourceError "invalid query param data" statusBadRequest), Store.empty) :=
    rfl
  have h := Prog.runWith_runs hrun
  obtain ⟨-, h0 | hdec | ⟨platformInfo, hdec, hv, -⟩⟩ := pushPlatformInfo_bad_request h
  · exact absurd h0.1 (by decide)
  · cases hdec
  · exact ⟨h, platformInfo, hv, hdec⟩

/-! ## A platform for the concrete runs -/

/-- An encrypted PPID of 768 hexadecimal digits. -/
def samplePpid : String := String.mk (List.replicate 768 '0')

/-- The push body of `samplePlatform`. -/
def sampleInfo : PlatformInfo :=
  { encPpid := samplePpid, cpuSvn := samplePlatform.cpuSvn, pceSvn := samplePlatform.pceSvn,
    pceID := samplePlatform.pceID, qeID := samplePlatform.qeID, manifest := "" }

/-- The TCBM of the concrete runs: sixteen zero component SVNs, then PCE-SVN 10 little-endian. -/
def sampleTcbm : String := "000000000000000000000000000000000a00"

/-- The library of the concrete runs: the push body decodes to `sampleInfo`, PCS sends one
certificate with the given TCBM, and the selector picks it. -/
def sampleLib (tcbm : String) : Lib := Lib.fixed sampleInfo [⟨tcbm, "cert"⟩] ⟨⟨[]⟩⟩ 0

/-- PCS's answer to `/pckcerts` in the concrete runs: FMSPC `f`, CA type `processor`. -/
def samplePckCerts (fmspc : String) : HttpResponse :=
  okResponse [("Sgx-Fmspc", fmspc), ("Sgx-Pck-Certificate-Ca-Type", "processor")] "certs"

end SgxCachingService
