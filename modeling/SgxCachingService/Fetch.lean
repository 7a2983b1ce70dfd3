/-
  SGX caching service: the upstream fetches of §4.1 and the PCK-certificate selection of §4.3.

  `fetchPckCertInfo` asks PCS for the platform's certificates, drops the `"Not available"`
  entries with two write cursors over scratch slices (`filterPckCerts`, `copyPrefix`),
  fetches the TCB info of the FMSPC header, and lets the DCAP library choose a certificate
  (`getBestPckCert`). `fetchPckCrlInfo`, `fetchFmspcTcbInfo` and `fetchQeIdentityInfo` are
  one function, `fetchCollateral`, applied to their request, messages and header.

  The record's `CertIndex` is `uint8(certIdx)`: within the certificates when the library keeps
  its contract (`fetchPckCertInfo_certIndex_lt`), but past 256 certificates the selector's
  index modulo 256, which names another certificate.

  What the handlers call outside this repository is a parameter, `Lib`: `encoding/json`,
  the value `url.QueryUnescape` returns, and `pck_cert_select`.
-/
import SgxCachingService.Program

namespace SgxCachingService

/-- What the handlers call outside this repository: `encoding/json` decoding into the
request and PCS shapes, the value `url.QueryUnescape` returns (the caller drops its error),
and the DCAP library `pck_cert_select(cpusvn, pcesvn, pceid, tcbinfo, certs, n, &idx)`, which
returns its error code and the index it wrote. -/
structure Lib where
  decodePlatformInfo : String → Except String PlatformInfo
  unmarshalPckCerts : String → Except String (List PckCertsInfo)
  unmarshalTcbInfo : String → Except String TcbInfoJSON
  queryUnescape : String → String
  pckCertSelect : List UInt8 → UInt16 → UInt16 → String → List String → Int × UInt32

/-- The contract of `pck_cert_select` (§4.3): on success the index is one of the `n`
certificates passed. -/
def Lib.SelectorContract (lib : Lib) : Prop :=
  ∀ cpusvn pceSvn pceID tcbInfo certs,
    (lib.pckCertSelect cpusvn pceSvn pceID tcbInfo certs).1 = 0 →
      (lib.pckCertSelect cpusvn pceSvn pceID tcbInfo certs).2.toNat < certs.length

/-- A library whose decoders give fixed values whatever the text, whose `QueryUnescape` is the
identity, and whose selector picks certificate `certIdx` when there is one and fails with code 1
otherwise: the environment of the concrete runs of this development. -/
def Lib.fixed (platformInfo : PlatformInfo) (pckCerts : List PckCertsInfo)
    (tcbInfo : TcbInfoJSON) (certIdx : UInt32) : Lib where
  decodePlatformInfo _ := .ok platformInfo
  unmarshalPckCerts _ := .ok pckCerts
  unmarshalTcbInfo _ := .ok tcbInfo
  queryUnescape := id
  pckCertSelect _ _ _ _ certs := if certIdx.toNat < certs.length then (0, certIdx) else (1, 0)

theorem Lib.fixed_selectorContract (platformInfo : PlatformInfo) (pckCerts : List PckCertsInfo)
    (tcbInfo : TcbInfoJSON) (certIdx : UInt32) :
    (Lib.fixed platformInfo pckCerts tcbInfo certIdx).SelectorContract := by
  intro _ _ _ _ certs
  simp only [Lib.fixed]
  split <;> simp_all

/-- A 200 response with the given headers and body, its `Content-Length` the body's length. -/
def okResponse (header : List (String × String)) (body : String) : HttpResponse :=
  { statusCode := statusOK, header := header, contentLength := body.length, body := some body }

/-! ## The PCS client -/

def getPckCertFromProvServer (encryptedPPID pceID : String) :
    Prog (Except String HttpResponse) :=
  upstream (.pckcerts encryptedPPID pceID)

def getPckCertsWithManifestFromProvServer (platformManifest pceID : String) :
    Prog (Except String HttpResponse) :=
  upstream (.pckcertsWithManifest platformManifest pceID)

def getPckCrlFromProvServer (ca encoding : String) : Prog (Except String HttpResponse) :=
  upstream (.pckcrl ca encoding)

def getFmspcTcbInfoFromProvServer (fmspc : String) : Prog (Except String HttpResponse) :=
  upstream (.tcb fmspc)

def getQeInfoFromProvServer : Prog (Except String HttpResponse) :=
  upstream .qeIdentity

/-! ## Collateral: CRL, TCB info, QE identity -/

/-- What the collateral fetches do with a response: a status other than 200 or a
`Content-Length` of 0 is an error; otherwise the issuer chain is read from `chainHeader`
and the body as it came. No header is checked. -/
def collateralOfResponse (statusError contentError chainHeader : String)
    (build : String → String → α) (resp : HttpResponse) : Except String α :=
  if resp.statusCode ≠ statusOK then .error statusError
  else if resp.contentLength = 0 then .error contentError
  else match resp.body with
    | none => .error "unexpected EOF"
    | some body => .ok (build (headerGet resp.header chainHeader) body)

/-- The shape of the three collateral fetches: one GET, then `collateralOfResponse`. -/
def fetchCollateral (get : Prog (Except String HttpResponse))
    (statusError contentError chainHeader : String) (build : String → String → α) :
    Prog (Except String α) := do
  match ← get with
  | .error e => return .error e
  | .ok resp => return collateralOfResponse statusError contentError chainHeader build resp

/-- `fetchPckCrlInfo`: the CRL body is stored base64-encoded. -/
def fetchPckCrlInfo (ca : String) : Prog (Except String PckCrl) :=
  fetchCollateral (getPckCrlFromProvServer ca encodingValue)
    "get revocation list api call failed with pcs" "no content found in getPCkCrl Http Response"
    "Sgx-Pck-Crl-Issuer-Chain"
    fun chain body =>
      { ca := ca, pckCrl := base64EncodeToString body, pckCrlCertChain := chain,
        createdTime := 0, updatedTime := 0 }

def fetchFmspcTcbInfo (fmspc : String) : Prog (Except String FmspcTcbInfo) :=
  fetchCollateral (getFmspcTcbInfoFromProvServer fmspc)
    "get tcb info api call failed with pcs" "no content found in getTCBInfo Http Response"
    "Sgx-Tcb-Info-Issuer-Chain"
    fun chain body =>
      { fmspc := fmspc, tcbInfo := body, tcbInfoIssuerChain := chain,
        createdTime := 0, updatedTime := 0 }

def fetchQeIdentityInfo : Prog (Except String QEIdentity) :=
  fetchCollateral getQeInfoFromProvServer
    "get qe identity api call failed with pcs" "no content found in getQeIdentity Http Response"
    "Sgx-Enclave-Identity-Issuer-Chain"
    fun chain body => { qeInfo := body, qeIssuerChain := chain, createdTime := 0, updatedTime := 0 }

/-! ## Selection -/

/-- `certError`: the messages of the library's return codes `0 … 12`. -/
def certError : List String :=
  ["PCK Cert Select Lib selected best suited PCK cert",
    "Invalid Arguments provided to PCK Cert Select Lib",
    "Invalid PCK Certificate",
    "PCK certificate CPUSVN doesn't match TCB Components",
    "Invalid PCK Certificate Version",
    "PCK Cert Lib returned Unexpected Error",
    "PCKs PCEID doesn't match other PCKs",
    "PCKs PPID doesn't match other PCKs",
    "PCKs FMSPC doesn't match other PCKs",
    "Invalid TCB Info provided as input to PCK Cert Select Lib",
    "TCB Info PceID does not match input PceID Value",
    "TCBInfo TCB Type is not supported",
    "Raw TCB is lower than all input PCKs"]

/-- `getBestPckCert`: decode the platform's raw TCB, call the library, and return
`uint8(certIdx)`. The call's arguments `&cpusvn.bytes[0]` and `&certs[0]` are evaluated first
and panic on an empty slice. The library's header is not in the repository, so its code is an
`Int`: `certError[ret]` panics below zero and past the table. `C.ushort` keeps the low 16 bits;
`C.CString` does not fail. -/
def getBestPckCert (lib : Lib) (platformInfo : Platform) (pckCerts : List String)
    (tcb : String) : Exit (Except String UInt8) :=
  match decodeString platformInfo.cpuSvn with
  | .error e => .returned (.error e)
  | .ok cpusvn =>
  match parseUint platformInfo.pceSvn 16 32 with
  | .error e => .returned (.error e)
  | .ok pceSvn =>
  match parseUint platformInfo.pceID 16 32 with
  | .error e => .returned (.error e)
  | .ok pceID =>
  if cpusvn.isEmpty then .panicked "index out of range [0] with length 0"
  else if pckCerts.isEmpty then .panicked "index out of range [0] with length 0"
  else
    let (ret, certIdx) := lib.pckCertSelect cpusvn pceSvn.toUInt16 pceID.toUInt16 tcb pckCerts
    if ret ≠ 0 then
      if ret < 0 then .panicked ("index out of range [" ++ toString ret ++ "]")
      else match certError[ret.toNat]? with
      | some msg => .returned (.error msg)
      | none => .panicked ("index out of range [" ++ toString ret ++ "] with length " ++
          toString certError.length)
    else .returned (.ok certIdx.toUInt8)

/-- Once the decoding phase of `getBestPckCert` has passed, its errors come from the library's
table `certError`, and an index it returns is the one `pck_cert_select` chose on the decoded
CPU-SVN and the PCE-SVN and PCE-ID cut to `C.ushort`. -/
theorem getBestPckCert_of_decoded {lib : Lib} {platformInfo : Platform} {pckCerts : List String}
    {tcb : String} {cpusvn : List UInt8} {pceSvn pceID : Nat}
    (hc : decodeString platformInfo.cpuSvn = .ok cpusvn) (hne : cpusvn ≠ [])
    (hs : parseUint platformInfo.pceSvn 16 32 = .ok pceSvn)
    (hi : parseUint platformInfo.pceID 16 32 = .ok pceID) :
    (∀ e, getBestPckCert lib platformInfo pckCerts tcb = .returned (.error e) → e ∈ certError) ∧
    ∀ idx, getBestPckCert lib platformInfo pckCerts tcb = .returned (.ok idx) →
      ∃ certIdx, lib.pckCertSelect cpusvn pceSvn.toUInt16 pceID.toUInt16 tcb pckCerts =
        (0, certIdx) ∧ idx = certIdx.toUInt8 := by
  have hce : cpusvn.isEmpty = false := List.isEmpty_eq_false.2 hne
  rcases hsel : lib.pckCertSelect cpusvn pceSvn.toUInt16 pceID.toUInt16 tcb pckCerts with
    ⟨ret, certIdx⟩
  simp only [getBestPckCert, hc, hs, hi, hce, hsel, Bool.false_eq_true, if_false]
  split_ifs with hp hr hneg
  · simp
  · simp
  · split
    · rename_i msg hmsg
      refine ⟨fun e he => ?_, fun _ h => nomatch h⟩
      cases he
      exact List.getElem?_mem hmsg
    · simp
  · simp only [ne_eq, not_not] at hr
    subst hr
    simp

/-- An index `getBestPckCert` returns is `uint8` of the one the selector chose. -/
theorem getBestPckCert_ok {lib : Lib} {platformInfo : Platform} {pckCerts : List String}
    {tcb : String} {idx : UInt8}
    (h : getBestPckCert lib platformInfo pckCerts tcb = .returned (.ok idx)) :
    ∃ cpusvn pceSvn pceID certIdx,
      lib.pckCertSelect cpusvn pceSvn pceID tcb pckCerts = (0, certIdx) ∧
        idx = certIdx.toUInt8 := by
  unfold getBestPckCert at h
  split at h
  · cases h
  split at h
  · cases h
  split at h
  · cases h
  split_ifs at h
  split at h
  rename_i ret certIdx hsel
  split_ifs at h with hr
  · split at h <;> cases h
  · cases h
    exact ⟨_, _, _, certIdx, by rw [hsel, not_not.1 hr], rfl⟩

/-- An index `getBestPckCert` returns names one of the certificates when the library keeps its
contract: `uint8(certIdx)` only lowers the index the selector chose. -/
theorem getBestPckCert_index_lt {lib : Lib} (hlib : lib.SelectorContract)
    {platformInfo : Platform} {pckCerts : List String} {tcb : String} {idx : UInt8}
    (h : getBestPckCert lib platformInfo pckCerts tcb = .returned (.ok idx)) :
    idx.toNat < pckCerts.length := by
  obtain ⟨cpusvn, pceSvn, pceID, certIdx, hsel, rfl⟩ := getBestPckCert_ok h
  have hlt := hlib cpusvn pceSvn pceID tcb pckCerts (by rw [hsel])
  rw [hsel] at hlt
  calc certIdx.toUInt8.toNat = certIdx.toNat % 256 := rfl
    _ ≤ certIdx.toNat := Nat.mod_le _ _
    _ < pckCerts.length := hlt

/-! ## PCK certificates -/

/-- The filtering loop of `fetchPckCertInfo`: each entry whose `Cert` is not
`"Not available"` writes its unescaped certificate and its TCBM at the cursor `certCount`
of the scratch slices `pckCertList` and `tcbmList`, and advances the cursor. -/
def filterPckCerts (lib : Lib) : List PckCertsInfo → List String × List String × Nat →
    List String × List String × Nat
  | [], acc => acc
  | e :: es, (pckCertList, tcbmList, certCount) =>
    if e.cert != "Not available" then
      filterPckCerts lib es (pckCertList.set certCount (lib.queryUnescape e.cert),
        tcbmList.set certCount e.tcbm, certCount + 1)
    else filterPckCerts lib es (pckCertList, tcbmList, certCount)

/-- The copy loop: a fresh slice of `certCount` entries, the `i`-th from the scratch slice. -/
def copyPrefix (scratch : List String) (certCount : Nat) : List String :=
  (List.range certCount).map fun i => scratch.getD i ""

/-- The certificates and TCBMs `fetchPckCertInfo` builds from the `/pckcerts` array, on
scratch slices of `len(pckCerts)` empty strings. -/
def pckCertLists (lib : Lib) (pckCerts : List PckCertsInfo) : List String × List String :=
  let scratch := filterPckCerts lib pckCerts
    (List.replicate pckCerts.length "", List.replicate pckCerts.length "", 0)
  (copyPrefix scratch.1 scratch.2.2, copyPrefix scratch.2.1 scratch.2.2)

theorem take_succ_set {α : Type} : ∀ {l : List α} {n : Nat}, n < l.length → ∀ a : α,
    (l.set n a).take (n + 1) = l.take n ++ [a]
  | _ :: _, 0, _, _ => rfl
  | _ :: xs, n + 1, h, a => by
    simp [take_succ_set (show n < xs.length by simpa using h) a]

theorem copyPrefix_eq_take {l : List String} {n : Nat} (h : n ≤ l.length) :
    copyPrefix l n = l.take n := by
  apply List.ext_getElem
  · simp [copyPrefix]; omega
  · intro i h₁ h₂
    have hi : i < l.length := by simp at h₂; omega
    simp [copyPrefix, List.getD_eq_getElem?_getD, List.getElem?_eq_getElem hi]

/-- The invariant of the filtering loop: behind the cursor stand the entries kept so far, in
order, and the two slices keep their lengths. -/
theorem filterPckCerts_spec (lib : Lib) :
    ∀ (es : List PckCertsInfo) (pl tl : List String) (n : Nat),
    n + es.length ≤ pl.length → n + es.length ≤ tl.length →
    (filterPckCerts lib es (pl, tl, n)).2.2 =
      n + (es.filter fun e => e.cert != "Not available").length ∧
    (filterPckCerts lib es (pl, tl, n)).1.length = pl.length ∧
    (filterPckCerts lib es (pl, tl, n)).2.1.length = tl.length ∧
    (filterPckCerts lib es (pl, tl, n)).1.take (filterPckCerts lib es (pl, tl, n)).2.2 =
      pl.take n ++
        (es.filter fun e => e.cert != "Not available").map (fun e => lib.queryUnescape e.cert) ∧
    (filterPckCerts lib es (pl, tl, n)).2.1.take (filterPckCerts lib es (pl, tl, n)).2.2 =
      tl.take n ++ (es.filter fun e => e.cert != "Not available").map (fun e => e.tcbm)
  | [], pl, tl, n, _, _ => by simp [filterPckCerts]
  | e :: es, pl, tl, n, hp, ht => by
    simp only [List.length_cons] at hp ht
    by_cases hc : (e.cert != "Not available") = true
    · obtain ⟨h₁, h₂, h₃, h₄, h₅⟩ := filterPckCerts_spec lib es
        (pl.set n (lib.queryUnescape e.cert)) (tl.set n e.tcbm) (n + 1)
        (by simp; omega) (by simp; omega)
      simp only [List.length_set, take_succ_set (show n < pl.length by omega),
        take_succ_set (show n < tl.length by omega)] at h₂ h₃ h₄ h₅
      simp only [filterPckCerts, hc, if_true, List.filter_cons, List.length_cons,
        List.map_cons]
      refine ⟨by rw [h₁]; omega, h₂, h₃, by rw [h₄]; simp, by rw [h₅]; simp⟩
    · have hc' : (e.cert != "Not available") = false := by simpa using hc
      simpa [filterPckCerts, hc', List.filter_cons] using
        filterPckCerts_spec lib es pl tl n (by omega) (by omega)

/-- The certificates and TCBMs built from a `/pckcerts` array are the available entries, in
their order, certificate and TCBM side by side. -/
theorem pckCertLists_eq (lib : Lib) (pckCerts : List PckCertsInfo) :
    pckCertLists lib pckCerts =
      ((pckCerts.filter fun e => e.cert != "Not available").map fun e => lib.queryUnescape e.cert,
        (pckCerts.filter fun e => e.cert != "Not available").map fun e => e.tcbm) := by
  obtain ⟨hn, hp, ht, hpt, htt⟩ := filterPckCerts_spec lib pckCerts
    (List.replicate pckCerts.length "") (List.replicate pckCerts.length "") 0 (by simp) (by simp)
  have hle := List.length_filter_le (fun e : PckCertsInfo => e.cert != "Not available") pckCerts
  simp only [List.length_replicate, Nat.zero_add] at hn hp ht
  simp only [pckCertLists]
  rw [copyPrefix_eq_take (by omega), copyPrefix_eq_take (by omega), hpt, htt]
  simp

/-- The two copy loops copy the same number of entries. -/
theorem pckCertLists_length (lib : Lib) (pckCerts : List PckCertsInfo) :
    (pckCertLists lib pckCerts).1.length = (pckCertLists lib pckCerts).2.length := by
  simp [pckCertLists, copyPrefix]

/-- What `fetchPckCertInfo` reads from the `/pckcerts` response: a status other than 200 or
a `Content-Length` of 0 is an error; then the three headers, which are not checked, the body
and its JSON array. The record's `CertIndex` is not chosen yet. -/
def readPckCerts (lib : Lib) (platformInfo : Platform) (resp : HttpResponse) :
    Except String (PckCert × String × String) :=
  if resp.statusCode ≠ statusOK then .error "get pckcerts api call failed with pcs"
  else if resp.contentLength = 0 then .error "no content found in getPCkCerts Http Response"
  else match resp.body with
    | none => .error "unexpected EOF"
    | some body =>
      match lib.unmarshalPckCerts body with
      | .error e => .error e
      | .ok pckCerts =>
        let pckCertInfo : PckCert :=
          { qeID := platformInfo.qeID, pceID := platformInfo.pceID,
            fmspc := headerGet resp.header "Sgx-Fmspc",
            pckCerts := (pckCertLists lib pckCerts).1, tcbms := (pckCertLists lib pckCerts).2,
            certIndex := 0, pckCertChainID := 0, createdTime := 0, updatedTime := 0 }
        .ok (pckCertInfo, headerGet resp.header "Sgx-Pck-Certificate-Issuer-Chain",
          headerGet resp.header "Sgx-Pck-Certificate-Ca-Type")

/-- A Go call that returns or panics, as a program without suspension points. -/
def Prog.ofExit : Exit α → Prog α
  | .returned a => .ret a
  | .panicked m => .panic m

/-- The `/pckcerts` GET of `fetchPckCertInfo`: by manifest when there is one, else by
encrypted PPID. -/
def requestPckCerts (platformInfo : Platform) : Prog (Except String HttpResponse) :=
  if platformInfo.manifest ≠ "" then
    getPckCertsWithManifestFromProvServer platformInfo.manifest platformInfo.pceID
  else getPckCertFromProvServer platformInfo.encppid platformInfo.pceID

/-- The `/pckcerts` request of `fetchPckCertInfo`: by manifest when there is one, else by
encrypted PPID. -/
def pckCertsRequest (platformInfo : Platform) : PcsRequest :=
  if platformInfo.manifest ≠ "" then .pckcertsWithManifest platformInfo.manifest platformInfo.pceID
  else .pckcerts platformInfo.encppid platformInfo.pceID

theorem requestPckCerts_eq (platformInfo : Platform) :
    requestPckCerts platformInfo = upstream (pckCertsRequest platformInfo) := by
  unfold requestPckCerts pckCertsRequest
  split <;> rfl

/-- `fetchPckCertInfo`: the certificate record with its chosen index, the TCB info of its
FMSPC, the issuer chain and the CA type. -/
def fetchPckCertInfo (lib : Lib) (platformInfo : Platform) :
    Prog (Except String (PckCert × FmspcTcbInfo × String × String)) :=
  if platformInfo.encppid = "" ∧ platformInfo.manifest = "" then
    return .error "invalid request, enc_ppid and platform_manifest are null"
  else do
  match ← requestPckCerts platformInfo with
  | .error e => return .error e
  | .ok resp =>
  match readPckCerts lib platformInfo resp with
  | .error e => return .error e
  | .ok (pckCertInfo, pckCertChain, ca) =>
  match ← fetchFmspcTcbInfo pckCertInfo.fmspc with
  | .error e => return .error e
  | .ok fmspcTcbInfo =>
  match ← Prog.ofExit
      (getBestPckCert lib platformInfo pckCertInfo.pckCerts fmspcTcbInfo.tcbInfo) with
  | .error e => return .error e
  | .ok certIndex =>
    return .ok ({ pckCertInfo with certIndex := certIndex }, fmspcTcbInfo, pckCertChain, ca)

/-! ## What a fetch returns -/

@[simp] theorem Prog.runs_ofExit {x : Exit α} {s s' : Store} {e : Exit α} :
    (Prog.ofExit x).Runs s e s' ↔ e = x ∧ s' = s := by
  cases x <;> simp [Prog.ofExit]

@[simp] theorem Prog.runsAmid_ofExit {x : Exit α} {xs : List Exchange} {s s' : Store}
    {e : Exit α} : (Prog.ofExit x).RunsAmid xs s e s' ↔ xs = [] ∧ e = x ∧ s.Keeps s' := by
  cases x <;> simp [Prog.ofExit]

theorem Prog.ofExit_readOnly (x : Exit α) : (Prog.ofExit x).ReadOnly := by
  cases x <;> trivial

theorem requestPckCerts_avoids (t : Table) (platformInfo : Platform) :
    (requestPckCerts platformInfo).Avoids t := by
  unfold requestPckCerts
  split <;> exact upstream_avoids t _

theorem fetchCollateral_avoids (t : Table) (req : PcsRequest)
    (statusError contentError chainHeader : String) (build : String → String → α) :
    (fetchCollateral (upstream req) statusError contentError chainHeader build).Avoids t :=
  Prog.Avoids.bind (upstream_avoids t req) fun r => by cases r <;> trivial

/-- The fetches only ask PCS: they write no table. -/
theorem fetchPckCertInfo_avoids (t : Table) (lib : Lib) (platformInfo : Platform) :
    (fetchPckCertInfo lib platformInfo).Avoids t := by
  unfold fetchPckCertInfo
  split
  · trivial
  refine Prog.Avoids.bind (requestPckCerts_avoids t _) fun r => ?_
  rcases r with _ | resp
  · trivial
  dsimp only
  split
  · trivial
  refine Prog.Avoids.bind (fetchCollateral_avoids t _ _ _ _ _) fun r => ?_
  rcases r with _ | fmspcTcbInfo
  · trivial
  refine Prog.Avoids.bind ?_ fun r => ?_
  · cases getBestPckCert lib platformInfo _ _ <;> trivial
  · rcases r with _ | _ <;> trivial

/-- A collateral response is accepted exactly when its status is 200, its `Content-Length`
is not 0 and its body can be read; the issuer chain is whatever `Header.Get` gives. -/
theorem collateralOfResponse_eq_ok {statusError contentError chainHeader : String}
    {build : String → String → α} {resp : HttpResponse} {v : α} :
    collateralOfResponse statusError contentError chainHeader build resp = .ok v ↔
      resp.statusCode = statusOK ∧ resp.contentLength ≠ 0 ∧
        ∃ body, resp.body = some body ∧ v = build (headerGet resp.header chainHeader) body := by
  unfold collateralOfResponse
  split_ifs with h₁ h₂
  · simp [h₁]
  · simp [h₂]
  · cases hb : resp.body <;> simp_all [eq_comm]

/-- The runs of a collateral fetch: PCS answers anything, the answer goes through
`collateralOfResponse`, and the store does not move. -/
theorem fetchCollateral_runs {req : PcsRequest} {statusError contentError chainHeader : String}
    {build : String → String → α} {s s' : Store} {e : Exit (Except String α)} :
    (fetchCollateral (upstream req) statusError contentError chainHeader build).Runs s e s' ↔
      s' = s ∧ ∃ r : Except String HttpResponse,
        e = .returned
          (r.bind (collateralOfResponse statusError contentError chainHeader build)) := by
  simp only [fetchCollateral, Prog.runs_bind, upstream_runs]
  constructor
  · rintro (⟨r, s₁, ⟨rfl, -⟩, h⟩ | ⟨m, ⟨-, _, ⟨⟩⟩, -⟩)
    cases r <;> simp only [Prog.runs_pure] at h <;> obtain ⟨rfl, rfl⟩ := h
    exacts [⟨rfl, .error _, rfl⟩, ⟨rfl, .ok _, rfl⟩]
  · rintro ⟨rfl, r, rfl⟩
    refine .inl ⟨r, _, ⟨rfl, r, rfl⟩, ?_⟩
    cases r <;> simp [Except.bind]

/-- A collateral fetch among other threads makes one exchange, and its answer is what
`collateralOfResponse` makes of the reply, whatever the store. -/
theorem fetchCollateral_runsAmid {req : PcsRequest} {statusError contentError chainHeader : String}
    {build : String → String → α} {xs : List Exchange} {s s' : Store}
    {e : Exit (Except String α)}
    (h : (fetchCollateral (upstream req) statusError contentError chainHeader build).RunsAmid xs s
      e s') :
    s.Keeps s' ∧ ∃ reply, xs = [(req, reply)] ∧
      e = .returned
        (reply.bind (collateralOfResponse statusError contentError chainHeader build)) := by
  rcases Prog.runsAmid_bind h with ⟨r, s₁, xs₁, xs₂, rfl, h₁, h₂⟩ | ⟨m, h₁, -⟩
  · obtain ⟨hk₁, r', rfl, he⟩ := upstream_runsAmid.1 h₁
    cases he
    cases r <;> obtain ⟨rfl, rfl, hk₂⟩ := Prog.runsAmid_pure.1 h₂
    exacts [⟨hk₁.trans hk₂, _, rfl, rfl⟩, ⟨hk₁.trans hk₂, _, rfl, rfl⟩]
  · obtain ⟨-, _, -, ⟨⟩⟩ := upstream_runsAmid.1 h₁

/-- A value a collateral fetch returns among other threads comes from a response with status
200 and a nonzero `Content-Length`, and its issuer chain is `Header.Get` of that response. -/
theorem fetchCollateral_runsAmid_returns {req : PcsRequest}
    {statusError contentError chainHeader : String} {build : String → String → α}
    {xs : List Exchange} {s s' : Store} {v : α}
    (h : (fetchCollateral (upstream req) statusError contentError chainHeader build).RunsAmid xs s
      (.returned (.ok v)) s') :
    ∃ (resp : HttpResponse) (body : String), resp.statusCode = statusOK ∧
      resp.contentLength ≠ 0 ∧ resp.body = some body ∧
      v = build (headerGet resp.header chainHeader) body := by
  obtain ⟨-, reply, -, hv⟩ := fetchCollateral_runsAmid h
  cases reply with
  | error => cases hv
  | ok resp =>
    have hv' : collateralOfResponse statusError contentError chainHeader build resp = .ok v :=
      (Exit.returned.inj hv).symm
    obtain ⟨h₁, h₂, body, hb, rfl⟩ := collateralOfResponse_eq_ok.1 hv'
    exact ⟨resp, body, h₁, h₂, hb, rfl⟩

/-- A value a collateral fetch returns comes from a response with status 200 and a nonzero
`Content-Length`, and its issuer chain is `Header.Get` of that response. -/
theorem fetchCollateral_returns {req : PcsRequest} {statusError contentError chainHeader : String}
    {build : String → String → α} {s s' : Store} {v : α}
    (h : (fetchCollateral (upstream req) statusError contentError chainHeader build).Runs s
      (.returned (.ok v)) s') :
    ∃ (resp : HttpResponse) (body : String), resp.statusCode = statusOK ∧
      resp.contentLength ≠ 0 ∧ resp.body = some body ∧
      v = build (headerGet resp.header chainHeader) body :=
  let ⟨_, h⟩ := h.runsOn
  fetchCollateral_runsAmid_returns h.amid

/-- What `readPckCerts` accepts, and the record it builds. -/
theorem readPckCerts_eq_ok {lib : Lib} {platformInfo : Platform} {resp : HttpResponse}
    {pckCertInfo : PckCert} {pckCertChain ca : String} :
    readPckCerts lib platformInfo resp = .ok (pckCertInfo, pckCertChain, ca) ↔
      resp.statusCode = statusOK ∧ resp.contentLength ≠ 0 ∧
      (∃ body pckCerts, resp.body = some body ∧ lib.unmarshalPckCerts body = .ok pckCerts ∧
        pckCertInfo =
          { qeID := platformInfo.qeID, pceID := platformInfo.pceID,
            fmspc := headerGet resp.header "Sgx-Fmspc",
            pckCerts := (pckCertLists lib pckCerts).1, tcbms := (pckCertLists lib pckCerts).2,
            certIndex := 0, pckCertChainID := 0, createdTime := 0, updatedTime := 0 }) ∧
      pckCertChain = headerGet resp.header "Sgx-Pck-Certificate-Issuer-Chain" ∧
      ca = headerGet resp.header "Sgx-Pck-Certificate-Ca-Type" := by
  unfold readPckCerts
  split_ifs with h₁ h₂
  · simp [h₁]
  · simp [h₂]
  · simp only [not_not] at h₁
    split
    · simp_all
    · split
      · simp_all
      · simp_all
        exact and_congr eq_comm (and_congr eq_comm eq_comm)

theorem readPckCerts_qeID {lib : Lib} {platformInfo : Platform} {resp : HttpResponse}
    {pckCertInfo : PckCert} {pckCertChain ca : String}
    (h : readPckCerts lib platformInfo resp = .ok (pckCertInfo, pckCertChain, ca)) :
    pckCertInfo.qeID = platformInfo.qeID := by
  obtain ⟨-, -, ⟨_, _, -, -, rfl⟩, -⟩ := readPckCerts_eq_ok.1 h
  rfl

/-- A record `fetchPckCertInfo` returns comes from the reply to its first exchange, the
`/pckcerts` request: `readPckCerts` accepted that reply, the record's issuer chain and CA type
are its headers, the TCB info is of its FMSPC, and the index is the one the selector chose. -/
theorem fetchPckCertInfo_runsAmid {lib : Lib} {platformInfo : Platform} {xs : List Exchange}
    {s s' : Store} {r : PckCert × FmspcTcbInfo × String × String}
    (h : (fetchPckCertInfo lib platformInfo).RunsAmid xs s (.returned (.ok r)) s') :
    ∃ resp rest pckCertInfo, xs = (pckCertsRequest platformInfo, .ok resp) :: rest ∧
      readPckCerts lib platformInfo resp = .ok (pckCertInfo, r.2.2.1, r.2.2.2) ∧
      r.2.1.fmspc = pckCertInfo.fmspc ∧
      getBestPckCert lib platformInfo pckCertInfo.pckCerts r.2.1.tcbInfo =
        .returned (.ok r.1.certIndex) ∧
      r.1 = { pckCertInfo with certIndex := r.1.certIndex } := by
  unfold fetchPckCertInfo at h
  split_ifs at h
  · cases (Prog.runsAmid_pure.1 h).2.1
  obtain ⟨resp, s₁, xs₁, xs₂, rfl, h₁, hk₁⟩ := Prog.runsAmid_bind_ok h fun _ => rfl
  obtain ⟨-, _, rfl, he⟩ := (requestPckCerts_eq platformInfo ▸ upstream_runsAmid).1 h₁
  cases he
  dsimp only at hk₁
  split at hk₁
  · cases (Prog.runsAmid_pure.1 hk₁).2.1
  rename_i pckCertInfo pckCertChain ca hread
  obtain ⟨ft, s₂, xs₃, xs₄, rfl, h₂, hk₂⟩ := Prog.runsAmid_bind_ok hk₁ fun _ => rfl
  obtain ⟨idx, s₃, xs₅, xs₆, rfl, h₃, hk₃⟩ := Prog.runsAmid_bind_ok hk₂ fun _ => rfl
  cases (Prog.runsAmid_pure.1 hk₃).2.1
  obtain ⟨-, hx, -⟩ := Prog.runsAmid_ofExit.1 h₃
  obtain ⟨_, _, -, -, -, rfl⟩ := fetchCollateral_runsAmid_returns h₂
  exact ⟨resp, _, pckCertInfo, rfl, hread, rfl, hx.symm, rfl⟩

theorem fetchPckCertInfo_readOnly (lib : Lib) (platformInfo : Platform) :
    (fetchPckCertInfo lib platformInfo).ReadOnly := by
  unfold fetchPckCertInfo
  split
  · trivial
  refine Prog.ReadOnly.bind (by rw [requestPckCerts_eq]; exact ⟨trivial, fun _ => trivial⟩)
    fun r => ?_
  rcases r with _ | resp
  · trivial
  dsimp only
  split
  · trivial
  refine Prog.ReadOnly.bind ⟨trivial, fun r => by cases r <;> trivial⟩ fun r => ?_
  rcases r with _ | fmspcTcbInfo
  · trivial
  exact Prog.ReadOnly.bind (Prog.ofExit_readOnly _) fun r => by rcases r with _ | _ <;> trivial

/-- The runs of `fetchPckCertInfo`: it writes nothing, and a record it returns comes from a
`/pckcerts` response `readPckCerts` accepts, with the TCB info of that response's FMSPC and the
index the selector chose. -/
theorem fetchPckCertInfo_runs {lib : Lib} {platformInfo : Platform} {s s' : Store}
    {e : Exit (Except String (PckCert × FmspcTcbInfo × String × String))}
    (h : (fetchPckCertInfo lib platformInfo).Runs s e s') :
    s' = s ∧ ∀ r, e = .returned (.ok r) →
      ∃ resp pckCertInfo certIndex,
        readPckCerts lib platformInfo resp = .ok (pckCertInfo, r.2.2.1, r.2.2.2) ∧
        r.2.1.fmspc = pckCertInfo.fmspc ∧
        getBestPckCert lib platformInfo pckCertInfo.pckCerts r.2.1.tcbInfo =
          .returned (.ok certIndex) ∧
        r.1 = { pckCertInfo with certIndex := certIndex } := by
  refine ⟨(fetchPckCertInfo_readOnly lib platformInfo).runs_eq h, fun r hr => ?_⟩
  subst hr
  obtain ⟨xs, h⟩ := h.runsOn
  obtain ⟨resp, -, pckCertInfo, -, hread, hft, hbest, hr⟩ := fetchPckCertInfo_runsAmid h.amid
  exact ⟨resp, pckCertInfo, _, hread, hft, hbest, hr⟩

/-- Under the library's contract, the record `fetchPckCertInfo` returns has its chosen index
within its TCBMs: the selector chose among the certificates copied beside them. -/
theorem fetchPckCertInfo_certIndex_lt {lib : Lib} (hlib : lib.SelectorContract)
    {platformInfo : Platform} {s s' : Store} {r : PckCert × FmspcTcbInfo × String × String}
    (h : (fetchPckCertInfo lib platformInfo).Runs s (.returned (.ok r)) s') :
    r.1.certIndex.toNat < r.1.tcbms.length := by
  obtain ⟨_, pckCertInfo, _, hread, -, hbest, hr⟩ := (fetchPckCertInfo_runs h).2 r rfl
  obtain ⟨-, -, ⟨_, pckCerts, -, -, rfl⟩, -⟩ := readPckCerts_eq_ok.1 hread
  rw [hr]
  exact pckCertLists_length lib pckCerts ▸ getBestPckCert_index_lt hlib hbest

/-- The platform of the concrete runs: 16 zero bytes of CPU-SVN, PCE-SVN 10, PCE-ID 0. -/
def samplePlatform : Platform :=
  { qeID := "0123456789abcdef0123456789abcdef", encppid := "e",
    cpuSvn := "00000000000000000000000000000000", pceSvn := "000a",
    pceID := "0000", manifest := "", fmspc := "", createdTime := 0, updatedTime := 0 }

/-- A `/pckcerts` array whose only entry is `"Not available"` leaves no certificate, and
`getBestPckCert` takes `&certs[0]` of the empty slice. -/
theorem fetchPckCertInfo_panics_on_no_certs :
    (Lib.fixed ⟨"", "", "", "", "", ""⟩ [⟨"t", "Not available"⟩] ⟨⟨[]⟩⟩ 0).SelectorContract ∧
    (fetchPckCertInfo (Lib.fixed ⟨"", "", "", "", "", ""⟩ [⟨"t", "Not available"⟩] ⟨⟨[]⟩⟩ 0)
        samplePlatform).runWith 0
      [.ok (okResponse [("Sgx-Fmspc", "f")] "b"), .ok (okResponse [] "tcb")] Store.empty =
      some (.panicked "index out of range [0] with length 0", Store.empty) :=
  ⟨Lib.fixed_selectorContract _ _ _ _, rfl⟩

end SgxCachingService
