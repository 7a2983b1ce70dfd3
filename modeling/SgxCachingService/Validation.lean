/-
  SGX caching service: input validation (`resource/validation.go`).

  The handlers call `validateInputString(constants.EncPPIDKey, …)`, a lower-case function and
  key names that the repository does not hold. `resource/validation.go` is an older file of the
  service: its `ValidateInputString` reads `regExMap`, keyed by `constants.EncPPID_Key` and the
  rest, with `ca` matching `^(processor)$` and `type` `^(certs)$`. It is the one version in the
  repository, so the model gives the handlers' call its body and map.

  `regExMap` holds one anchored pattern per input field: a hexadecimal string of a fixed
  length, or one literal word. `validateInputString key s` looks the key up and matches `s`
  against its pattern; a key that is not in the map has a nil `*Regexp`, and matching through it
  panics. `validateAll` is the chain `!v₁ || !v₂ || …` of `pushPlatformInfo`, which stops at the
  first failing check. Over a push body it never panics, and it passes exactly when the five
  fields match their patterns (`PlatformInfo.validateAll_checks`); the manifest is not read.
-/
import SgxCachingService.Go

namespace SgxCachingService

/-- The two shapes of pattern in `regExMap`: `^[0-9a-fA-F]{n}$` and `^(w)$`. -/
inductive Pattern where
  | hex (n : Nat)
  | word (w : String)
  deriving DecidableEq, Repr

/-- `regexp.MatchString` for the two shapes. -/
def Pattern.matches : Pattern → String → Bool
  | .hex n, s => s.length == n && s.data.all fun c => (fromHexChar c).isSome
  | .word w, s => s == w

/-- `regExMap`. -/
def regExMap : List (String × Pattern) :=
  [(encPPIDKey, .hex 768), (cpuSvnKey, .hex 32), (pceSvnKey, .hex 4), (pceIDKey, .hex 4),
    (caKey, .word "processor"), (typeKey, .word "certs"), (fmspcKey, .hex 12),
    (qeIDKey, .hex 32)]

/-- `ValidateInputString` of `validation.go`, for the handlers' `validateInputString`: an empty
key fails before the map is read; a key with no pattern dereferences a nil `*Regexp`. -/
def validateInputString (key inString : String) : Exit Bool :=
  if key.length ≤ 0 then .returned false
  else match regExMap.lookup key with
    | some regEx => .returned (regEx.matches inString)
    | none => .panicked "invalid memory address or nil pointer dereference"

/-- The checks `!validateInputString(k₁, s₁) || …`, left to right: `true` when every one
passes, `false` at the first that fails. -/
def validateAll : List (String × String) → Exit Bool
  | [] => .returned true
  | (key, inString) :: rest =>
    match validateInputString key inString with
    | .returned true => validateAll rest
    | r => r

/-- The fields of `PlatformInfo` that `pushPlatformInfo` validates, in its order. -/
def PlatformInfo.checks (p : PlatformInfo) : List (String × String) :=
  [(encPPIDKey, p.encPpid), (cpuSvnKey, p.cpuSvn), (pceSvnKey, p.pceSvn), (pceIDKey, p.pceID),
    (qeIDKey, p.qeID)]

/-- Every key the handlers validate has a pattern, so the checks never panic. -/
theorem validateInputString_of_lookup {key : String} {regEx : Pattern}
    (h : regExMap.lookup key = some regEx) (inString : String) :
    validateInputString key inString = .returned (regEx.matches inString) := by
  obtain ⟨p, hp, hkp⟩ := List.lookup_isSome_iff.1 (by simp [h] : (regExMap.lookup key).isSome)
  have hkeys : ∀ p ∈ regExMap, 0 < p.1.length := by decide
  have hk : 0 < key.length := beq_iff_eq.1 hkp ▸ hkeys p hp
  simp [validateInputString, Nat.not_le.2 hk, h]

/-- The QE-ID check passes exactly on 32 hexadecimal digits. -/
theorem validateInputString_qeID (s : String) :
    validateInputString qeIDKey s = .returned (Pattern.matches (.hex 32) s) :=
  validateInputString_of_lookup (by decide) s

theorem Pattern.matches_hex {n : Nat} {s : String} :
    Pattern.matches (.hex n) s = true ↔ s.length = n ∧ ∀ c ∈ s.data, (fromHexChar c).isSome := by
  simp [Pattern.matches, List.all_eq_true]

/-- A string that passes the check of a hexadecimal field has that field's number of digits. -/
theorem hex_of_validateInputString {key s : String} {n : Nat}
    (hk : regExMap.lookup key = some (.hex n)) (h : validateInputString key s = .returned true) :
    s.length = n ∧ ∀ c ∈ s.data, (fromHexChar c).isSome :=
  Pattern.matches_hex.1 (Exit.returned.inj ((validateInputString_of_lookup hk s).symm.trans h))

/-- The five checks of a push, each against its pattern: they never panic, and they pass exactly
when every field has its number of hexadecimal digits; the manifest is not looked at. -/
theorem PlatformInfo.validateAll_checks (p : PlatformInfo) :
    validateAll p.checks = .returned (Pattern.matches (.hex 768) p.encPpid &&
      Pattern.matches (.hex 32) p.cpuSvn && Pattern.matches (.hex 4) p.pceSvn &&
      Pattern.matches (.hex 4) p.pceID && Pattern.matches (.hex 32) p.qeID) := by
  have lookup (key : String) (regEx : Pattern) (h : regExMap.lookup key = some regEx) :=
    validateInputString_of_lookup h
  simp only [PlatformInfo.checks, validateAll, lookup encPPIDKey (.hex 768) rfl,
    lookup cpuSvnKey (.hex 32) rfl, lookup pceSvnKey (.hex 4) rfl, lookup pceIDKey (.hex 4) rfl,
    lookup qeIDKey (.hex 32) rfl]
  cases Pattern.matches (.hex 768) p.encPpid <;> cases Pattern.matches (.hex 32) p.cpuSvn <;>
    cases Pattern.matches (.hex 4) p.pceSvn <;> cases Pattern.matches (.hex 4) p.pceID <;>
    cases Pattern.matches (.hex 32) p.qeID <;> rfl

/-- When the chain of checks passes, every check passes. -/
theorem validateAll_eq_true : ∀ {checks : List (String × String)},
    validateAll checks = .returned true →
      ∀ c ∈ checks, validateInputString c.1 c.2 = .returned true
  | [], _ => by simp
  | (key, inString) :: rest, h => by
    unfold validateAll at h
    split at h
    · rename_i hk
      intro c hc
      rcases List.mem_cons.1 hc with rfl | hc
      exacts [hk, validateAll_eq_true h c hc]
    · exact absurd h ‹_›

/-- A push body that passes the checks has a QE-ID of 32 digits. -/
theorem PlatformInfo.qeID_length_of_checks {p : PlatformInfo}
    (h : validateAll p.checks = .returned true) : p.qeID.length = 32 := by
  have := validateAll_eq_true h (qeIDKey, p.qeID) (by simp [PlatformInfo.checks])
  rw [validateInputString_qeID] at this
  simp only [Pattern.matches, Exit.returned.injEq, Bool.and_eq_true, beq_iff_eq] at this
  exact this.1

end SgxCachingService
