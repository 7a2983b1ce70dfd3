/-
  SGX caching service: what the input checks let through (§4.7), and what the handlers then do
  with it.

  Model. `validateInputString` matches a field against its pattern in `regExMap`. A push runs
  five checks, `validateAll` over `PlatformInfo.checks`, and what they accept is
  `PlatformInfo.validateAll_checks` (`Validation`). `getBestPckCert` decodes three of the same
  fields with `hex.DecodeString` and `strconv.ParseUint(·, 16, 32)` before it calls the DCAP
  library. The character and digit-loop facts underneath are in `Go`.

  Proved:
  * `getBestPckCert_decodes_valid_input`: for every CPU-SVN, PCE-SVN and PCE-ID that pass their
    checks, the decoding phase of `getBestPckCert` succeeds. The CPU-SVN gives sixteen bytes,
    and their lower-case encoding is the CPU-SVN in lower case. The two SVNs give values of at
    most `0xFFFF`, which `C.ushort` keeps. Every error `getBestPckCert` then returns comes from
    the library's table, and every index it returns is the one the library chose on exactly
    these values.
  * `pushPlatformInfo_rejects_empty_encPpid`: a push whose body has no encrypted PPID is
    answered 400 and writes nothing, whatever its manifest. §4.7 makes the encrypted PPID
    optional when a manifest is supplied (`PlatformInfo.SpecAccepts`), so such a body, which
    §4.7 accepts, is refused (`manifestOnlyInfo`). The other way holds:
    `PlatformInfo.specAccepts_of_validateAll`.
-/
import SgxCachingService.Concurrency

namespace SgxCachingService

/-! ## Validated SVNs decode -/

/-- Four digits that pass a check parse, in base 16 on 32 bits, to a value `C.ushort` keeps. -/
theorem parseUint_of_validateInputString {key s : String}
    (hk : regExMap.lookup key = some (.hex 4)) (h : validateInputString key s = .returned true) :
    ∃ v, parseUint s 16 32 = .ok v ∧ v ≤ 0xFFFF ∧ v.toUInt16.toNat = v := by
  obtain ⟨hl, hx⟩ := hex_of_validateInputString hk h
  obtain ⟨v, hv, hlt⟩ : ∃ v, parseUint s 16 32 = .ok v ∧ v < 16 ^ s.length :=
    parseUint_of_hex (by omega) hx (by rw [hl]; decide)
  rw [hl] at hlt
  exact ⟨v, hv, by omega, UInt16.toNat_ofNat_of_lt hlt⟩

theorem getBestPckCert_decodes_valid_input {cpu ps pid : String}
    (hcpu : validateInputString cpuSvnKey cpu = .returned true)
    (hps : validateInputString pceSvnKey ps = .returned true)
    (hpid : validateInputString pceIDKey pid = .returned true) :
    ∃ (cpusvn : List UInt8) (pceSvn pceID : Nat),
      decodeString cpu = .ok cpusvn ∧ cpusvn.length = 16 ∧ encodeToString cpusvn = cpu.toLower ∧
      parseUint ps 16 32 = .ok pceSvn ∧ pceSvn ≤ 0xFFFF ∧ pceSvn.toUInt16.toNat = pceSvn ∧
      parseUint pid 16 32 = .ok pceID ∧ pceID ≤ 0xFFFF ∧ pceID.toUInt16.toNat = pceID ∧
      ∀ (lib : Lib) (platformInfo : Platform) (pckCerts : List String) (tcb : String),
        platformInfo.cpuSvn = cpu → platformInfo.pceSvn = ps → platformInfo.pceID = pid →
        (∀ e, getBestPckCert lib platformInfo pckCerts tcb = .returned (.error e) →
          e ∈ certError) ∧
        ∀ idx, getBestPckCert lib platformInfo pckCerts tcb = .returned (.ok idx) →
          ∃ certIdx, lib.pckCertSelect cpusvn pceSvn.toUInt16 pceID.toUInt16 tcb pckCerts =
            (0, certIdx) ∧ idx = certIdx.toUInt8 := by
  obtain ⟨hl, hx⟩ := hex_of_validateInputString (by rfl) hcpu
  obtain ⟨cpusvn, hd, hlen, he⟩ := decodeString_of_hex (by omega) hx
  obtain ⟨pceSvn, hs, hs16, hsu⟩ := parseUint_of_validateInputString (by rfl) hps
  obtain ⟨pceID, hi, hi16, hiu⟩ := parseUint_of_validateInputString (by rfl) hpid
  refine ⟨cpusvn, pceSvn, pceID, hd, by omega, he, hs, hs16, hsu, hi, hi16, hiu, ?_⟩
  rintro lib platformInfo pckCerts tcb rfl rfl rfl
  exact getBestPckCert_of_decoded hd (List.ne_nil_of_length_pos (by omega)) hs hi

/-- A CPU-SVN in both cases, the largest PCE-SVN and the smallest PCE-ID. -/
theorem getBestPckCert_decodes_mixed_case :
    validateInputString cpuSvnKey "0123456789abcdefABCDEF0123456789" = .returned true ∧
    validateInputString pceSvnKey "FFFF" = .returned true ∧
    validateInputString pceIDKey "0000" = .returned true ∧
    ∃ (cpusvn : List UInt8) (pceSvn pceID : Nat),
      decodeString "0123456789abcdefABCDEF0123456789" = .ok cpusvn ∧ cpusvn.length = 16 ∧
      encodeToString cpusvn = "0123456789abcdefABCDEF0123456789".toLower ∧
      parseUint "FFFF" 16 32 = .ok pceSvn ∧ pceSvn ≤ 0xFFFF ∧ pceSvn.toUInt16.toNat = pceSvn ∧
      parseUint "0000" 16 32 = .ok pceID ∧ pceID ≤ 0xFFFF ∧ pceID.toUInt16.toNat = pceID ∧
      ∀ (lib : Lib) (platformInfo : Platform) (pckCerts : List String) (tcb : String),
        platformInfo.cpuSvn = "0123456789abcdefABCDEF0123456789" →
        platformInfo.pceSvn = "FFFF" → platformInfo.pceID = "0000" →
        (∀ e, getBestPckCert lib platformInfo pckCerts tcb = .returned (.error e) →
          e ∈ certError) ∧
        ∀ idx, getBestPckCert lib platformInfo pckCerts tcb = .returned (.ok idx) →
          ∃ certIdx, lib.pckCertSelect cpusvn pceSvn.toUInt16 pceID.toUInt16 tcb pckCerts =
            (0, certIdx) ∧ idx = certIdx.toUInt8 :=
  ⟨rfl, rfl, rfl, getBestPckCert_decodes_valid_input rfl rfl rfl⟩

/-! ## A body with only a manifest -/

/-- The checks §4.7 gives for a push body: each field against its pattern, except that the
encrypted PPID may be empty when a manifest is supplied. -/
def PlatformInfo.SpecAccepts (p : PlatformInfo) : Prop :=
  (Pattern.matches (.hex 768) p.encPpid = true ∨ p.encPpid = "" ∧ p.manifest ≠ "") ∧
    Pattern.matches (.hex 32) p.cpuSvn = true ∧ Pattern.matches (.hex 4) p.pceSvn = true ∧
    Pattern.matches (.hex 4) p.pceID = true ∧ Pattern.matches (.hex 32) p.qeID = true

instance (p : PlatformInfo) : Decidable p.SpecAccepts := inferInstanceAs (Decidable (_ ∧ _))

/-- Every body the push checks pass is one §4.7 accepts. -/
theorem PlatformInfo.specAccepts_of_validateAll {p : PlatformInfo}
    (h : validateAll p.checks = .returned true) : p.SpecAccepts := by
  simp only [PlatformInfo.validateAll_checks, Exit.returned.injEq, Bool.and_eq_true] at h
  obtain ⟨⟨⟨⟨h₁, h₂⟩, h₃⟩, h₄⟩, h₅⟩ := h
  exact ⟨.inl h₁, h₂, h₃, h₄, h₅⟩

/-- A push body with a manifest and no encrypted PPID, its other fields those of `sampleInfo`. -/
def manifestOnlyInfo : PlatformInfo := { sampleInfo with encPpid := "", manifest := "manifest" }

theorem pushPlatformInfo_rejects_empty_encPpid {lib : Lib} {contentLength : Int} {body : String}
    {platformInfo : PlatformInfo} (hc : contentLength ≠ 0)
    (hd : lib.decodePlatformInfo body = .ok platformInfo) (he : platformInfo.encPpid = "")
    (s : Store) :
    (pushPlatformInfo lib contentLength body).Runs s
        (.returned (.resourceError "invalid query param data" statusBadRequest)) s ∧
      ∀ e s', (pushPlatformInfo lib contentLength body).Runs s e s' →
        e = .returned (.resourceError "invalid query param data" statusBadRequest) ∧ s' = s := by
  have hv : validateAll platformInfo.checks = .returned false := by
    rw [PlatformInfo.validateAll_checks, he]
    rfl
  have hp : pushPlatformInfo lib contentLength body =
      pure (.resourceError "invalid query param data" statusBadRequest) := by
    simp only [pushPlatformInfo, hc, if_false, hd, hv, Prog.ofExit, Prog.ret_bind]
    rfl
  rw [hp]
  exact ⟨Prog.runs_pure.2 ⟨rfl, rfl⟩, fun _ _ => Prog.runs_pure.1⟩

/-- The body with only a manifest passes §4.7 and is refused on an empty repository. -/
theorem pushPlatformInfo_rejects_manifest_only :
    manifestOnlyInfo.SpecAccepts ∧
      ((pushPlatformInfo (Lib.fixed manifestOnlyInfo [] ⟨⟨[]⟩⟩ 0) 1 "body").Runs Store.empty
          (.returned (.resourceError "invalid query param data" statusBadRequest)) Store.empty ∧
        ∀ e s', (pushPlatformInfo (Lib.fixed manifestOnlyInfo [] ⟨⟨[]⟩⟩ 0) 1 "body").Runs
            Store.empty e s' →
          e = .returned (.resourceError "invalid query param data" statusBadRequest) ∧
            s' = Store.empty) :=
  ⟨by decide, pushPlatformInfo_rejects_empty_encPpid (by decide) rfl rfl Store.empty⟩

end SgxCachingService
