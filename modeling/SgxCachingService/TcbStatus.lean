/-
  SGX caching service: the TCB status evaluator (§4.4, `getTcbStatus`).

  The handler validates `qeid`, reads the `PckCert`, `Platform` and `FmspcTcbInfo` rows, decodes
  the TCBM at the certificate's `CertIndex`, splits it into sixteen component SVNs and a
  little-endian PCE-SVN (`splitTcbm`), and answers with the status of the first TCB level the
  platform's raw TCB is `EqualOrGreater` to (`tcbLevelStatus`).

  `tcbLevelStatus_spec`: the status is that of the first level the raw TCB dominates
  componentwise, or `""`. On a well-formed TCBM and rows that are present, the handler
  answers 200, `"true"` exactly when that first dominated level is
  `UpToDate` or `ConfigurationNeeded`. A TCBM shorter than eighteen bytes makes `splitTcbm`
  panic.
-/
import SgxCachingService.Compare
import SgxCachingService.Fetch
import SgxCachingService.Validation

namespace SgxCachingService

/-! ## The evaluator -/

/-- The loop over the TCB levels with its `break`: the status of the first level the raw TCB
is `EqualOrGreater` to, and `""` when there is none. -/
def tcbLevelStatus (pckComponents : List UInt8) (pckPceSvn : UInt16) :
    List TcbLevelsType → String
  | [] => ""
  | level :: levels =>
    if compareTcbComponents pckComponents pckPceSvn (getTcbCompList level.tcb)
        level.tcb.pceSvn = .equalOrGreater then level.tcbStatus
    else tcbLevelStatus pckComponents pckPceSvn levels

/-- The answer for a status: `UpToDate` and `ConfigurationNeeded` count as up to date. -/
def tcbStatusResponse (status : String) : Response :=
  if status = "UpToDate" ∨ status = "ConfigurationNeeded" then
    ⟨"true", "TCB Status is UpToDate"⟩
  else ⟨"false", "TCB Status is not UpToDate"⟩

/-- `tcbm[:16]` and `binary.LittleEndian.Uint16(tcbm[16:])` on the bytes `hex.DecodeString`
gave for a string of `hexLength` digits. Its slice has the capacity the allocator gave the
string's bytes (`roundupsize`), and `[:16]` checks that; `[16:]` checks the length, and `Uint16`
reads `b[1]`. -/
def splitTcbm (tcbm : List UInt8) (hexLength : Nat) : Exit (List UInt8 × UInt16) :=
  if roundupsize hexLength < 16 then
    .panicked ("slice bounds out of range [:16] with capacity " ++ toString (roundupsize hexLength))
  else if tcbm.length < 16 then
    .panicked ("slice bounds out of range [16:" ++ toString tcbm.length ++ "]")
  else match littleEndianUint16 (tcbm.drop 16) with
    | some pckPceSvn => .returned (tcbm.take 16, pckPceSvn)
    | none => .panicked ("index out of range [1] with length " ++ toString (tcbm.length - 16))

/-- `getTcbStatus` after authorization, on the request's query parameters. -/
def getTcbStatus (lib : Lib) (urlQuery : List (String × String)) : Prog Reply := do
  if urlQuery.isEmpty then
    return .resourceError "query data not provided" statusBadRequest
  let qeID := queryGet urlQuery "qeid"
  if !(← Prog.ofExit (validateInputString qeIDKey qeID)) then
    return .resourceError "invalid qeid" statusBadRequest
  match ← query (.retrieve .pckCert qeID) with
  | .error err => return .resourceError ("no pck cert record found: " ++ err) statusNotFound
  | .ok pckCert =>
  match ← query (.retrieve .platform qeID) with
  | .error err => return .resourceError ("no platform record found: " ++ err) statusNotFound
  | .ok platform =>
  match ← query (.retrieve .fmspcTcbInfo platform.fmspc) with
  | .error err => return .resourceError ("no tcb info record found: " ++ err) statusNotFound
  | .ok fmspcTcb =>
  match pckCert.tcbms[pckCert.certIndex.toNat]? with
  | none => .panic ("index out of range [" ++ toString pckCert.certIndex.toNat ++
      "] with length " ++ toString pckCert.tcbms.length)
  | some tcbmHex =>
  match decodeString tcbmHex with
  | .error err => return .resourceError ("cannot decode tcbm: " ++ err) statusInternalServerError
  | .ok tcbm =>
  let (pckComponents, pckPceSvn) ← Prog.ofExit (splitTcbm tcbm tcbmHex.length)
  match lib.unmarshalTcbInfo fmspcTcb.tcbInfo with
  | .error err =>
    return .resourceError ("cannot unmarshal tcbinfo: " ++ err) statusInternalServerError
  | .ok tcbInfo =>
    return .written statusOK
      (tcbStatusResponse (tcbLevelStatus pckComponents pckPceSvn tcbInfo.tcbInfo.tcbLevels))

/-- The status query only reads: it leaves the repository as it was. -/
theorem getTcbStatus_readOnly (lib : Lib) (urlQuery : List (String × String)) :
    (getTcbStatus lib urlQuery).ReadOnly := by
  unfold getTcbStatus
  simp only [Prog.pure_bind]
  split
  · trivial
  refine Prog.ReadOnly.bind (Prog.ofExit_readOnly _) fun b => ?_
  split
  · trivial
  refine Prog.ReadOnly.bind (query_readOnly trivial) fun r => ?_
  rcases r with _ | pckCert
  · trivial
  refine Prog.ReadOnly.bind (query_readOnly trivial) fun r => ?_
  rcases r with _ | platform
  · trivial
  refine Prog.ReadOnly.bind (query_readOnly trivial) fun r => ?_
  rcases r with _ | fmspcTcb
  · trivial
  dsimp only
  split
  · trivial
  split
  · trivial
  refine Prog.ReadOnly.bind (Prog.ofExit_readOnly _) fun r => ?_
  split <;> trivial

/-! ## What it answers -/

/-- The raw TCB `(pckComponents, pckPceSvn)` is at or above the level's TCB. -/
def Dominates (pckComponents : List UInt8) (pckPceSvn : UInt16) (level : TcbLevelsType) :
    Prop :=
  TcbGe pckComponents pckPceSvn (getTcbCompList level.tcb) level.tcb.pceSvn

/-- The status is that of the first level the raw TCB dominates, or `""` if it dominates
none. -/
theorem tcbLevelStatus_spec {c : List UInt8} (hc : c.length = maxTcbLevels) (p : UInt16) :
    ∀ levels : List TcbLevelsType,
      (∃ pre l post, levels = pre ++ l :: post ∧ Dominates c p l ∧
        (∀ l' ∈ pre, ¬Dominates c p l') ∧ tcbLevelStatus c p levels = l.tcbStatus) ∨
      ((∀ l ∈ levels, ¬Dominates c p l) ∧ tcbLevelStatus c p levels = "")
  | [] => .inr ⟨by simp, rfl⟩
  | l :: levels => by
    have hcmp : compareTcbComponents c p (getTcbCompList l.tcb) l.tcb.pceSvn = .equalOrGreater ↔
        Dominates c p l := compareTcbComponents_eq_equalOrGreater hc (getTcbCompList_length l.tcb)
    by_cases hl : Dominates c p l
    · exact .inl ⟨[], l, levels, rfl, hl, by simp, by simp [tcbLevelStatus, hcmp.2 hl]⟩
    · have hne : tcbLevelStatus c p (l :: levels) = tcbLevelStatus c p levels := by
        simp [tcbLevelStatus, mt hcmp.1 hl]
      rcases tcbLevelStatus_spec hc p levels with ⟨pre, l', post, rfl, h₁, h₂, h₃⟩ | ⟨h₁, h₂⟩
      · refine .inl ⟨l :: pre, l', post, rfl, h₁, ?_, hne.trans h₃⟩
        simpa [hl] using h₂
      · exact .inr ⟨by simpa [hl] using h₁, hne.trans h₂⟩

/-- A level the raw TCB dominates, after none that it dominates, decides the status. -/
theorem tcbLevelStatus_of_first {c : List UInt8} (hc : c.length = maxTcbLevels) (p : UInt16)
    {l : TcbLevelsType} (post : List TcbLevelsType) (hl : Dominates c p l) :
    ∀ pre : List TcbLevelsType, (∀ l' ∈ pre, ¬Dominates c p l') →
      tcbLevelStatus c p (pre ++ l :: post) = l.tcbStatus
  | [], _ => by
    simp [tcbLevelStatus,
      (compareTcbComponents_eq_equalOrGreater hc (getTcbCompList_length l.tcb)).2 hl]
  | l' :: pre, h => by
    have hl' : compareTcbComponents c p (getTcbCompList l'.tcb) l'.tcb.pceSvn ≠ .equalOrGreater :=
      mt (compareTcbComponents_eq_equalOrGreater hc (getTcbCompList_length l'.tcb)).1
        (h l' (by simp))
    simp only [List.cons_append, tcbLevelStatus, hl', if_false]
    exact tcbLevelStatus_of_first hc p post hl pre fun x hx => h x (by simp [hx])

theorem tcbStatusResponse_cases (status : String) :
    tcbStatusResponse status = ⟨"true", "TCB Status is UpToDate"⟩ ∧
        (status = "UpToDate" ∨ status = "ConfigurationNeeded") ∨
      tcbStatusResponse status = ⟨"false", "TCB Status is not UpToDate"⟩ ∧
        ¬(status = "UpToDate" ∨ status = "ConfigurationNeeded") := by
  unfold tcbStatusResponse
  split_ifs with h
  · exact .inl ⟨rfl, h⟩
  · exact .inr ⟨rfl, h⟩

/-- The verdict of §4.4: the first level the raw TCB dominates is `UpToDate` or
`ConfigurationNeeded`. -/
def UpToDateVerdict (pckComponents : List UInt8) (pckPceSvn : UInt16)
    (levels : List TcbLevelsType) : Prop :=
  ∃ pre l post, levels = pre ++ l :: post ∧ Dominates pckComponents pckPceSvn l ∧
    (∀ l' ∈ pre, ¬Dominates pckComponents pckPceSvn l') ∧
    (l.tcbStatus = "UpToDate" ∨ l.tcbStatus = "ConfigurationNeeded")

/-- The answer for the status the loop finds is `"true"` exactly on the verdict of §4.4. -/
theorem tcbStatusResponse_tcbLevelStatus {c : List UInt8} (hc : c.length = maxTcbLevels)
    (p : UInt16) (levels : List TcbLevelsType) :
    tcbStatusResponse (tcbLevelStatus c p levels) = ⟨"true", "TCB Status is UpToDate"⟩ ∧
        UpToDateVerdict c p levels ∨
      tcbStatusResponse (tcbLevelStatus c p levels) = ⟨"false", "TCB Status is not UpToDate"⟩ ∧
        ¬UpToDateVerdict c p levels := by
  rcases tcbLevelStatus_spec hc p levels with ⟨pre, l, post, rfl, h₁, h₂, h₃⟩ | ⟨h₁, h₂⟩
  · rw [h₃]
    rcases tcbStatusResponse_cases l.tcbStatus with ⟨ht, hs⟩ | ⟨hf, hs⟩
    · exact .inl ⟨ht, pre, l, post, rfl, h₁, h₂, hs⟩
    · refine .inr ⟨hf, fun ⟨pre', l', post', heq, h₁', h₂', hs'⟩ => hs ?_⟩
      rw [← h₃, heq, tcbLevelStatus_of_first hc p post' h₁' pre' h₂']
      exact hs'
  · rw [h₂]
    refine .inr ⟨rfl, fun ⟨pre, l, post, heq, h₁', _, _⟩ => h₁ l ?_ h₁'⟩
    simp [heq]

theorem splitTcbm_append {c : List UInt8} (hc : c.length = 16) (lo hi : UInt8) {hexLength : Nat}
    (hlen : 16 ≤ hexLength) :
    splitTcbm (c ++ [lo, hi]) hexLength =
      .returned (c, (lo.toNat + 256 * hi.toNat).toUInt16) := by
  simp [splitTcbm, Nat.not_lt.2 (hlen.trans (le_roundupsize hexLength)), hc,
    List.drop_append_eq_append_drop, List.take_append_eq_append_take, littleEndianUint16]

/-- `getTcbStatus` over a database that answers: with the three rows present and a TCBM that
decodes and splits, it answers 200 with the verdict of the loop. -/
theorem getTcbStatus_runWith {lib : Lib} {clock : Nat}
    {replies : List (Except String HttpResponse)} {s : Store} {q : String}
    {pckCert : PckCert} {platform : Platform} {fmspcTcb : FmspcTcbInfo} {tcbmHex : String}
    {tcbm pckComponents : List UInt8} {pckPceSvn : UInt16} {tcbInfo : TcbInfoJSON}
    (hq : validateInputString qeIDKey q = .returned true)
    (hpc : Table.find .pckCert s.pckCerts q = some pckCert)
    (hpl : Table.find .platform s.platforms q = some platform)
    (hft : Table.find .fmspcTcbInfo s.fmspcTcbInfos platform.fmspc = some fmspcTcb)
    (htcbm : pckCert.tcbms[pckCert.certIndex.toNat]? = some tcbmHex)
    (hdec : decodeString tcbmHex = .ok tcbm)
    (hsplit : splitTcbm tcbm tcbmHex.length = .returned (pckComponents, pckPceSvn))
    (hjson : lib.unmarshalTcbInfo fmspcTcb.tcbInfo = .ok tcbInfo) :
    (getTcbStatus lib [("qeid", q)]).runWith clock replies s =
      some (.returned (.written statusOK (tcbStatusResponse
        (tcbLevelStatus pckComponents pckPceSvn tcbInfo.tcbInfo.tcbLevels))), s) := by
  simp [getTcbStatus, queryGet, hq, Prog.ofExit, query, Prog.runWith, Call.answer, Call.exec,
    Store.rows, hpc, hpl, hft, htcbm, hdec, hsplit, hjson]

/-- For a certificate whose chosen TCBM is the hex encoding of sixteen component bytes `c` and
a little-endian PCE-SVN `lo, hi`, with its platform and TCB info rows present, `getTcbStatus`
answers 200, `"true"` exactly on the verdict of §4.4 over the decoded TCB levels. -/
theorem getTcbStatus_verdict (lib : Lib) (clock : Nat)
    (replies : List (Except String HttpResponse)) (s : Store) (q : String) (pckCert : PckCert)
    (platform : Platform) (fmspcTcb : FmspcTcbInfo) (c : List UInt8) (lo hi : UInt8)
    (tcbInfo : TcbInfoJSON)
    (hq : validateInputString qeIDKey q = .returned true)
    (hpc : Table.find .pckCert s.pckCerts q = some pckCert)
    (hpl : Table.find .platform s.platforms q = some platform)
    (hft : Table.find .fmspcTcbInfo s.fmspcTcbInfos platform.fmspc = some fmspcTcb)
    (hc : c.length = 16)
    (htcbm : pckCert.tcbms[pckCert.certIndex.toNat]? = some (encodeToString (c ++ [lo, hi])))
    (hjson : lib.unmarshalTcbInfo fmspcTcb.tcbInfo = .ok tcbInfo) :
    ∃ res : Response,
      (getTcbStatus lib [("qeid", q)]).runWith clock replies s =
        some (.returned (.written statusOK res), s) ∧
      (res = ⟨"true", "TCB Status is UpToDate"⟩ ∧
          UpToDateVerdict c (lo.toNat + 256 * hi.toNat).toUInt16 tcbInfo.tcbInfo.tcbLevels ∨
        res = ⟨"false", "TCB Status is not UpToDate"⟩ ∧
          ¬UpToDateVerdict c (lo.toNat + 256 * hi.toNat).toUInt16 tcbInfo.tcbInfo.tcbLevels) := by
  have hlen : 16 ≤ (encodeToString (c ++ [lo, hi])).length := by
    simp [encodeToString, String.length, hexDigits_length, hc]
  exact ⟨_, getTcbStatus_runWith hq hpc hpl hft htcbm (decodeString_encodeToString _)
    (splitTcbm_append hc lo hi hlen) hjson, tcbStatusResponse_tcbLevelStatus hc _ _⟩

/-- A TCB level of sixteen zero components and PCE-SVN 10, `UpToDate`. -/
def sampleLevel : TcbLevelsType :=
  ⟨⟨0, 0, 0, 0, 0, 0, 0, 0, 0, 0, 0, 0, 0, 0, 0, 0, 10⟩, "UpToDate"⟩

/-- The rows of `samplePlatform` with FMSPC `"f"`: its certificate, whose one TCBM is sixteen
zero components and PCE-SVN 10, the platform, and the TCB info. -/
def sampleTcbStore : Store :=
  { Store.empty with
    platforms := [{ samplePlatform with fmspc := "f" }]
    pckCerts := [⟨samplePlatform.qeID, samplePlatform.pceID, "f", ["cert"],
      [encodeToString (List.replicate 16 0 ++ [10, 0])], 0, 1, 0, 0⟩]
    fmspcTcbInfos := [⟨"f", "tcb", "", 0, 0⟩] }

/-- On the rows of `sampleTcbStore` the handler answers with the verdict over one `UpToDate`
level. -/
theorem getTcbStatus_verdict_sample :
    ∃ res : Response,
      (getTcbStatus (Lib.fixed ⟨"", "", "", "", "", ""⟩ [] ⟨⟨[sampleLevel]⟩⟩ 0)
          [("qeid", samplePlatform.qeID)]).runWith 0 [] sampleTcbStore =
        some (.returned (.written statusOK res), sampleTcbStore) ∧
      (res = ⟨"true", "TCB Status is UpToDate"⟩ ∧
          UpToDateVerdict (List.replicate 16 0)
            ((10 : UInt8).toNat + 256 * (0 : UInt8).toNat).toUInt16 [sampleLevel] ∨
        res = ⟨"false", "TCB Status is not UpToDate"⟩ ∧
          ¬UpToDateVerdict (List.replicate 16 0)
            ((10 : UInt8).toNat + 256 * (0 : UInt8).toNat).toUInt16 [sampleLevel]) :=
  getTcbStatus_verdict (Lib.fixed ⟨"", "", "", "", "", ""⟩ [] ⟨⟨[sampleLevel]⟩⟩ 0) 0 []
    sampleTcbStore samplePlatform.qeID _ _ _ (List.replicate 16 0) 10 0 ⟨⟨[sampleLevel]⟩⟩
    (by rw [validateInputString_qeID]; rfl) rfl rfl rfl rfl rfl rfl

end SgxCachingService
