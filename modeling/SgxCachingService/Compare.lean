/-
  SGX caching service: the TCB comparison of the status evaluator (§4.4, step 1).

  `compareTcbComponents` raises `leftLower` and `rightLower` over the PCE-SVN and the sixteen
  component SVNs, then reads the result off the two flags. It
  answers `Error` exactly on a vector that is not sixteen bytes long, and on two sixteen-byte
  vectors the flags realise the componentwise product order `TcbGe` exactly:
  `EqualOrGreater` is `≥`, `Lower` is strictly below, `Undefined` is incomparable.
-/
import Mathlib.Data.List.Forall2
import SgxCachingService.Types

namespace SgxCachingService

/-- The results of `compareTcbComponents` (`Error = iota`, `EqualOrGreater`, `Lower`,
`Undefined`). -/
inductive TcbCompare where
  | error
  | equalOrGreater
  | lower
  | undefined
  deriving DecidableEq, Repr

/-- The loop `for i := 0; i < MaxTcbLevels; i++` of `compareTcbComponents`, over both slices
together (both have `MaxTcbLevels` bytes when it runs): a component below the other raises
`leftLower`, one above raises `rightLower`. -/
def compareLoop : List UInt8 → List UInt8 → Bool × Bool → Bool × Bool
  | p :: ps, t :: ts, (leftLower, rightLower) =>
    compareLoop ps ts (leftLower || decide (p < t), rightLower || decide (p > t))
  | _, _, flags => flags

/-- The end of `compareTcbComponents`: both flags give `Undefined`, `leftLower` alone
`Lower`, anything else `EqualOrGreater`. -/
def TcbCompare.ofFlags (leftLower rightLower : Bool) : TcbCompare :=
  if leftLower && rightLower then .undefined
  else if leftLower then .lower
  else .equalOrGreater

/-- `compareTcbComponents`: the PCE-SVNs set the flags first, then the loop. -/
def compareTcbComponents (pckComponents : List UInt8) (pckpcesvn : UInt16)
    (tcbComponents : List UInt8) (tcbpcesvn : UInt16) : TcbCompare :=
  if pckComponents.length ≠ maxTcbLevels ∨ tcbComponents.length ≠ maxTcbLevels then .error
  else
    let flags := compareLoop pckComponents tcbComponents
      (decide (pckpcesvn < tcbpcesvn), decide (pckpcesvn > tcbpcesvn))
    TcbCompare.ofFlags flags.1 flags.2

theorem TcbCompare.ofFlags_ne_error (l r : Bool) : ofFlags l r ≠ .error := by
  cases l <;> cases r <;> decide

theorem TcbCompare.ofFlags_eq_equalOrGreater {l r : Bool} :
    ofFlags l r = .equalOrGreater ↔ ¬ l = true := by
  cases l <;> cases r <;> decide

theorem TcbCompare.ofFlags_eq_lower {l r : Bool} :
    ofFlags l r = .lower ↔ l = true ∧ ¬ r = true := by
  cases l <;> cases r <;> decide

theorem TcbCompare.ofFlags_eq_undefined {l r : Bool} :
    ofFlags l r = .undefined ↔ l = true ∧ r = true := by
  cases l <;> cases r <;> decide

/-- `getTcbCompList`: the sixteen component SVNs of a TCB level, in order. -/
def getTcbCompList (tcbLevelList : TcbLevels) : List UInt8 :=
  [tcbLevelList.sgxTcbComp01Svn, tcbLevelList.sgxTcbComp02Svn, tcbLevelList.sgxTcbComp03Svn,
    tcbLevelList.sgxTcbComp04Svn, tcbLevelList.sgxTcbComp05Svn, tcbLevelList.sgxTcbComp06Svn,
    tcbLevelList.sgxTcbComp07Svn, tcbLevelList.sgxTcbComp08Svn, tcbLevelList.sgxTcbComp09Svn,
    tcbLevelList.sgxTcbComp10Svn, tcbLevelList.sgxTcbComp11Svn, tcbLevelList.sgxTcbComp12Svn,
    tcbLevelList.sgxTcbComp13Svn, tcbLevelList.sgxTcbComp14Svn, tcbLevelList.sgxTcbComp15Svn,
    tcbLevelList.sgxTcbComp16Svn]

@[simp] theorem getTcbCompList_length (l : TcbLevels) : (getTcbCompList l).length = 16 := rfl

/-- `(pck, pckPceSvn) ≥ (tcb, tcbPceSvn)` componentwise: the order of §4.4. -/
def TcbGe (pck : List UInt8) (pckPceSvn : UInt16) (tcb : List UInt8) (tcbPceSvn : UInt16) :
    Prop :=
  (∀ k (hp : k < pck.length) (ht : k < tcb.length), tcb[k] ≤ pck[k]) ∧ tcbPceSvn ≤ pckPceSvn

theorem uint8_le_antisymm {a b : UInt8} (h₁ : a ≤ b) (h₂ : b ≤ a) : a = b :=
  UInt8.toNat.inj (Nat.le_antisymm h₁ h₂)

theorem uint16_le_antisymm {a b : UInt16} (h₁ : a ≤ b) (h₂ : b ≤ a) : a = b :=
  UInt16.toNat.inj (Nat.le_antisymm h₁ h₂)

theorem tcbGe_refl (a : List UInt8) (pa : UInt16) : TcbGe a pa a pa :=
  ⟨fun _ _ _ => UInt8.le_refl _, UInt16.le_refl _⟩

theorem tcbGe_antisymm {a b : List UInt8} {pa pb : UInt16} (hl : a.length = b.length)
    (h₁ : TcbGe a pa b pb) (h₂ : TcbGe b pb a pa) : a = b ∧ pa = pb :=
  ⟨List.ext_get hl fun k ha hb => uint8_le_antisymm (h₂.1 k hb ha) (h₁.1 k ha hb),
    uint16_le_antisymm h₂.2 h₁.2⟩

theorem tcbGe_iff {a b : List UInt8} {pa pb : UInt16} (hl : a.length = b.length) :
    TcbGe a pa b pb ↔ List.Forall₂ (fun x y => y ≤ x) a b ∧ pb ≤ pa := by
  simp [TcbGe, List.forall₂_iff_get, hl]

/-- The loop raises `leftLower` exactly when some component is below the other, and
`rightLower` exactly when some component is above it. -/
theorem compareLoop_spec : ∀ {a b : List UInt8}, a.length = b.length → ∀ {l r : Bool},
    ((compareLoop a b (l, r)).1 = true ↔ l = true ∨ ¬ List.Forall₂ (fun x y => y ≤ x) a b) ∧
      ((compareLoop a b (l, r)).2 = true ↔ r = true ∨ ¬ List.Forall₂ (fun x y => y ≤ x) b a)
  | [], [], _, _, _ => by simp [compareLoop]
  | p :: ps, t :: ts, h, l, r => by
    have ih := compareLoop_spec (a := ps) (b := ts) (by simpa using h)
      (l := l || decide (p < t)) (r := r || decide (p > t))
    simp only [compareLoop, ih, List.forall₂_cons, Bool.or_eq_true, decide_eq_true_eq,
      not_and_or, UInt8.not_le, gt_iff_lt, or_assoc, iff_self, and_self]

/-- On two sixteen-byte vectors the flags mean "not `≥`" and "not `≤`". -/
theorem compareLoop_flags {a b : List UInt8} {pa pb : UInt16} (hl : a.length = b.length) :
    ((compareLoop a b (decide (pa < pb), decide (pa > pb))).1 = true ↔ ¬ TcbGe a pa b pb) ∧
    ((compareLoop a b (decide (pa < pb), decide (pa > pb))).2 = true ↔ ¬ TcbGe b pb a pa) := by
  obtain ⟨hL, hR⟩ := compareLoop_spec hl (l := decide (pa < pb)) (r := decide (pa > pb))
  rw [hL, hR, tcbGe_iff hl, tcbGe_iff hl.symm]
  simp only [decide_eq_true_eq, gt_iff_lt, not_and_or, UInt16.not_le]
  exact ⟨or_comm, or_comm⟩

theorem compareTcbComponents_of_length {a b : List UInt8} {pa pb : UInt16}
    (ha : a.length = maxTcbLevels) (hb : b.length = maxTcbLevels) :
    compareTcbComponents a pa b pb =
      TcbCompare.ofFlags (compareLoop a b (decide (pa < pb), decide (pa > pb))).1
        (compareLoop a b (decide (pa < pb), decide (pa > pb))).2 :=
  if_neg (by simp [ha, hb])

/-- `EqualOrGreater` is the order `≥` on sixteen-byte vectors. -/
theorem compareTcbComponents_eq_equalOrGreater {a b : List UInt8} {pa pb : UInt16}
    (ha : a.length = maxTcbLevels) (hb : b.length = maxTcbLevels) :
    compareTcbComponents a pa b pb = .equalOrGreater ↔ TcbGe a pa b pb := by
  rw [compareTcbComponents_of_length ha hb, TcbCompare.ofFlags_eq_equalOrGreater,
    (compareLoop_flags (ha.trans hb.symm)).1, not_not]

/-- `compareTcbComponents` decides the componentwise order on sixteen-byte vectors. -/
theorem compareTcbComponents_spec (a b : List UInt8) (pa pb : UInt16) :
    (compareTcbComponents a pa b pb = .error ↔
        a.length ≠ maxTcbLevels ∨ b.length ≠ maxTcbLevels) ∧
      (a.length = maxTcbLevels → b.length = maxTcbLevels →
        (compareTcbComponents a pa b pb = .equalOrGreater ↔ TcbGe a pa b pb) ∧
        (compareTcbComponents a pa b pb = .lower ↔ TcbGe b pb a pa ∧ (a, pa) ≠ (b, pb)) ∧
        (compareTcbComponents a pa b pb = .undefined ↔
          ¬ TcbGe a pa b pb ∧ ¬ TcbGe b pb a pa)) := by
  refine ⟨?_, fun ha hb => ⟨compareTcbComponents_eq_equalOrGreater ha hb, ?_⟩⟩
  · unfold compareTcbComponents
    split
    · simp_all
    · simp_all [TcbCompare.ofFlags_ne_error]
  have hl : a.length = b.length := ha.trans hb.symm
  have hne : TcbGe b pb a pa → ((a, pa) ≠ (b, pb) ↔ ¬ TcbGe a pa b pb) := fun hba => by
    constructor
    · intro hne hab
      obtain ⟨rfl, rfl⟩ := tcbGe_antisymm hl hab hba
      exact hne rfl
    · rintro hab ⟨⟩
      exact hab (tcbGe_refl a pa)
  rw [compareTcbComponents_of_length ha hb, TcbCompare.ofFlags_eq_lower,
    TcbCompare.ofFlags_eq_undefined, (compareLoop_flags hl).1, (compareLoop_flags hl).2, not_not]
  exact ⟨⟨fun ⟨h₁, h₂⟩ => ⟨h₂, (hne h₂).2 h₁⟩, fun ⟨h₂, h₃⟩ => ⟨(hne h₂).1 h₃, h₂⟩⟩, .rfl⟩

end SgxCachingService
