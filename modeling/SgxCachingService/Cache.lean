/-
  SGX caching service: the cache writers and the lazy-cache chains of §4.5.

  `cachePckCertInfo`, `cachePckCrlInfo`, `cacheFmspcTcbInfo`, `cacheQeIdentityInfo`,
  `cachePlatformInfo` and `cachePlatformTcbInfo` are one function, `cacheInfo`, applied to
  their table: stamp `UpdatedTime`; on `CacheRefresh` `Update` (gorm `Save`) the row; otherwise
  stamp `CreatedTime` too and `Create` it. `cachePckCertChainInfo` writes the keyless chain
  table.

  The chains `getLazyCachePckCert`, `getLazyCachePckCrl`, `getLazyCacheFmspcTcbInfo` and
  `getLazyCacheQEIdentityInfo`, which the handlers call, are not in the source. They are
  modelled from the spec (§4.5, step 3) and from the older `GetLazyCache*` of `constants.go`:
  fetch, then cache, each step's error returned as it is.

  Proved here: `cacheInfo_runs`, all that a run of a cache writer can do (write its stamped
  row, or fail and leave the store as it was), and `getLazyCachePckCert_runs`: the chain writes a
  `Platform` row only once the `PckCert` row of its QE-ID and the `FmspcTcbInfo` row of its FMSPC
  are in the store, so every platform stays backed. Among other threads (`Prog.RunsAmid`),
  `getLazyCachePckCert_runsAmid_ok` says where what the chain returns came from: the `/pckcerts`
  reply of its first exchange; in `CacheInsert` mode neither the certificate nor the TCB info was
  in the store it started from.
-/
import SgxCachingService.Fetch

namespace SgxCachingService

/-! ## Time stamps -/

/-- `row.UpdatedTime = time.Now()`. -/
def Table.stampUpdated : (t : Table) → t.Row → Nat → t.Row
  | .platform, r, n => { r with updatedTime := n }
  | .platformTcb, r, n => { r with updatedTime := n }
  | .pckCert, r, n => { r with updatedTime := n }
  | .pckCrl, r, n => { r with updatedTime := n }
  | .fmspcTcbInfo, r, n => { r with updatedTime := n }
  | .qeIdentity, r, n => { r with updatedTime := n }

/-- `row.CreatedTime = time.Now()`. -/
def Table.stampCreated : (t : Table) → t.Row → Nat → t.Row
  | .platform, r, n => { r with createdTime := n }
  | .platformTcb, r, n => { r with createdTime := n }
  | .pckCert, r, n => { r with createdTime := n }
  | .pckCrl, r, n => { r with createdTime := n }
  | .fmspcTcbInfo, r, n => { r with createdTime := n }
  | .qeIdentity, r, n => { r with createdTime := n }

@[simp] theorem Table.key_stampUpdated (t : Table) (r : t.Row) (n : Nat) :
    t.key (t.stampUpdated r n) = t.key r := by
  cases t <;> rfl

@[simp] theorem Table.key_stampCreated (t : Table) (r : t.Row) (n : Nat) :
    t.key (t.stampCreated r n) = t.key r := by
  cases t <;> rfl

/-! ## The cache writers -/

/-- The cache writers of `platform_ops.go`: `UpdatedTime` is stamped; on `CacheRefresh` the row
is `Update`d (gorm `Save`, every column); otherwise `CreatedTime` is stamped as well, from a
second reading of the clock, and the row is `Create`d. -/
def cacheInfo (t : Table) (row : t.Row) (cacheType : CacheType) : Prog (Except String t.Row) := do
  let row := t.stampUpdated row (← timeNow)
  if cacheType = .cacheRefresh then
    match ← query (.update t row) with
    | .error e => return .error e
    | .ok () => return .ok row
  else
    let row := t.stampCreated row (← timeNow)
    query (.create t row)

def cachePckCertInfo (pckCert : PckCert) (cacheType : CacheType) :
    Prog (Except String PckCert) :=
  cacheInfo .pckCert pckCert cacheType

def cacheQeIdentityInfo (qeIdentity : QEIdentity) (cacheType : CacheType) :
    Prog (Except String QEIdentity) :=
  cacheInfo .qeIdentity qeIdentity cacheType

def cacheFmspcTcbInfo (fmspcTcb : FmspcTcbInfo) (cacheType : CacheType) :
    Prog (Except String FmspcTcbInfo) :=
  cacheInfo .fmspcTcbInfo fmspcTcb cacheType

def cachePckCrlInfo (pckCrl : PckCrl) (cacheType : CacheType) : Prog (Except String PckCrl) :=
  cacheInfo .pckCrl pckCrl cacheType

/-- `cachePlatformInfo` returns only the error. -/
def cachePlatformInfo (platform : Platform) (cacheType : CacheType) :
    Prog (Except String Unit) := do
  return (← cacheInfo .platform platform cacheType).map fun _ => ()

/-- `cachePlatformTcbInfo`: the platform's SVNs with the TCBM of its chosen certificate. -/
def cachePlatformTcbInfo (platformInfo : Platform) (tcbm : String) (cacheType : CacheType) :
    Prog (Except String Unit) := do
  let platformTcb : PlatformTcb :=
    { tcbm := tcbm, cpuSvn := platformInfo.cpuSvn, pceSvn := platformInfo.pceSvn,
      pceID := platformInfo.pceID, qeID := platformInfo.qeID, createdTime := 0, updatedTime := 0 }
  return (← cacheInfo .platformTcb platformTcb cacheType).map fun _ => ()

/-- `cachePckCertChainInfo`: a fresh chain row, stamped like the others. Its `ID` is zero, and
gorm's `Save` of a row with a zero primary key inserts it, so both modes insert. -/
def cachePckCertChainInfo (pckCertChain : String) (cacheType : CacheType) :
    Prog (Except String PckCertChain) := do
  let certChain : PckCertChain :=
    { id := 0, pckCertChain := pckCertChain, createdTime := 0, updatedTime := (← timeNow) }
  if cacheType = .cacheRefresh then
    match ← query (.createChain certChain) with
    | .error e => return .error e
    | .ok _ => return .ok certChain
  else
    query (.createChain { certChain with createdTime := (← timeNow) })

/-! ## The lazy-cache chains -/

/-- Modelled from the spec: `getLazyCachePckCert` (§4.5, step 3a–b), absent from the sources.
Fetch the certificates, then persist the chain, the certificate (with the chain's `ID`), the
TCB info, the platform (with the FMSPC of the certificate) and the platform's TCB (the TCBM at
the chosen index, `Tcbms[CertIndex]`, which panics out of range), in this order. Returns the
certificate, the platform as cached and the CA type. -/
def getLazyCachePckCert (lib : Lib) (platform : Platform) (cacheType : CacheType) :
    Prog (Except String (PckCert × Platform × String)) := do
  match ← fetchPckCertInfo lib platform with
  | .error e => return .error e
  | .ok (pckCertInfo, fmspcTcbInfo, pckCertChain, ca) =>
  match ← cachePckCertChainInfo pckCertChain cacheType with
  | .error e => return .error e
  | .ok certChain =>
  match ← cachePckCertInfo { pckCertInfo with pckCertChainID := certChain.id } cacheType with
  | .error e => return .error e
  | .ok pckCert =>
  match ← cacheFmspcTcbInfo fmspcTcbInfo cacheType with
  | .error e => return .error e
  | .ok _ =>
  let platform := { platform with fmspc := pckCert.fmspc }
  match ← cachePlatformInfo platform cacheType with
  | .error e => return .error e
  | .ok () =>
  match pckCert.tcbms[pckCert.certIndex.toNat]? with
  | none => .panic ("index out of range [" ++ toString pckCert.certIndex.toNat ++
      "] with length " ++ toString pckCert.tcbms.length)
  | some tcbm =>
  match ← cachePlatformTcbInfo platform tcbm cacheType with
  | .error e => return .error e
  | .ok () => return .ok (pckCert, platform, ca)

/-- Modelled from the spec: the shape of the collateral chains `getLazyCachePckCrl`,
`getLazyCacheFmspcTcbInfo` and `getLazyCacheQEIdentityInfo` (§4.5), absent from the sources
(`constants.go` has older versions without a cache type): fetch, then cache what was fetched;
an error of either is returned. -/
def fetchThenCache (fetch : Prog (Except String α)) (cache : α → Prog (Except String α)) :
    Prog (Except String α) := do
  match ← fetch with
  | .error e => return .error e
  | .ok row => cache row

/-- Modelled from the spec: `getLazyCachePckCrl` (§4.5, step 3c), the CRL of the CA type. -/
def getLazyCachePckCrl (ca : String) (cacheType : CacheType) : Prog (Except String PckCrl) :=
  fetchThenCache (fetchPckCrlInfo ca) fun pckCrl => cachePckCrlInfo pckCrl cacheType

/-- Modelled from the spec: `getLazyCacheFmspcTcbInfo` (§4.5), the TCB info of the FMSPC. -/
def getLazyCacheFmspcTcbInfo (fmspc : String) (cacheType : CacheType) :
    Prog (Except String FmspcTcbInfo) :=
  fetchThenCache (fetchFmspcTcbInfo fmspc) fun fmspcTcb => cacheFmspcTcbInfo fmspcTcb cacheType

/-- Modelled from the spec: `getLazyCacheQEIdentityInfo` (§4.5, step 3d), the QE identity. -/
def getLazyCacheQEIdentityInfo (cacheType : CacheType) : Prog (Except String QEIdentity) :=
  fetchThenCache fetchQeIdentityInfo fun qeIdentity => cacheQeIdentityInfo qeIdentity cacheType

/-! ## What a cache writer does -/

/-- The row `cacheInfo` writes, with the clock readings `n` and `m`. -/
def Table.stamped (t : Table) (row : t.Row) : CacheType → Nat → Nat → t.Row
  | .cacheRefresh, n, _ => t.stampUpdated row n
  | .cacheInsert, n, m => t.stampCreated (t.stampUpdated row n) m

@[simp] theorem Table.key_stamped (t : Table) (row : t.Row) (cacheType : CacheType) (n m : Nat) :
    t.key (t.stamped row cacheType n m) = t.key row := by
  cases cacheType <;> simp [Table.stamped]

/-- The store after a cache writer wrote `r`, which names a chain of the store: `Save` on
refresh; on insert, `r` appended under a key the table did not have. -/
def Store.Cached (t : Table) (cacheType : CacheType) (s : Store) (r : t.Row) (s' : Store) :
    Prop :=
  t.refsIn r s.pckCertChains ∧
    match cacheType with
    | .cacheRefresh => s' = s.setRows t (t.save (s.rows t) r)
    | .cacheInsert => t.key r ∉ (s.rows t).map t.key ∧ s' = s.setRows t (s.rows t ++ [r])

/-- A run of a cache writer wrote its stamped row and returns it, or failed and left the
store as it was. -/
theorem cacheInfo_runs {t : Table} {row : t.Row} {cacheType : CacheType} {s s' : Store}
    {e : Exit (Except String t.Row)} (h : (cacheInfo t row cacheType).Runs s e s') :
    (∃ n m, e = .returned (.ok (t.stamped row cacheType n m)) ∧
      s.Cached t cacheType (t.stamped row cacheType n m) s') ∨
    (∃ err, e = .returned (.error err) ∧ s' = s) := by
  simp only [cacheInfo, Prog.runs_bind, timeNow_returns, timeNow_not_panics, false_and,
    exists_false, or_false] at h
  obtain ⟨n, s₁, rfl, h⟩ := h
  cases cacheType with
  | cacheRefresh =>
    simp only [if_true, Prog.runs_bind, query_returns, query_not_panics, false_and,
      exists_false, or_false] at h
    obtain ⟨r, s₂, hb, h⟩ := h
    rcases Call.outcome_update hb with ⟨rfl, hfk, rfl⟩ | ⟨⟨m, rfl⟩, rfl⟩ <;>
      obtain ⟨rfl, rfl⟩ := Prog.runs_pure.1 h
    exacts [.inl ⟨n, 0, rfl, hfk, rfl⟩, .inr ⟨m, rfl, rfl⟩]
  | cacheInsert =>
    simp only [reduceCtorEq, if_false, Prog.runs_bind, timeNow_returns, timeNow_not_panics,
      false_and, exists_false, or_false, query_runs] at h
    obtain ⟨m, s₂, rfl, b, hb, rfl⟩ := h
    rcases Call.outcome_create hb with ⟨rfl, hnew, hfk, rfl⟩ | ⟨⟨err, rfl⟩, rfl⟩
    exacts [.inl ⟨n, m, rfl, hfk, hnew, rfl⟩, .inr ⟨err, rfl, rfl⟩]

@[simp] theorem Store.Cached.hasKey {t : Table} {cacheType : CacheType} {s s' : Store}
    {r : t.Row} (h : s.Cached t cacheType r s') : s'.HasKey t (t.key r) := by
  cases cacheType with
  | cacheRefresh =>
    rw [show s' = _ from h.2, Store.HasKey, Store.rows_setRows, Table.keys_save]
    split <;> simp_all
  | cacheInsert => rw [h.2.2]; simp [Store.HasKey]

theorem Table.mem_save {t : Table} {rows : List t.Row} {r x : t.Row} (h : x ∈ t.save rows r) :
    x ∈ rows ∨ x = r := by
  unfold Table.save at h
  split at h
  · obtain ⟨y, hy, rfl⟩ := List.mem_map.1 h
    split
    · exact .inr rfl
    · exact .inl hy
  · simpa using h

theorem Table.mem_save_of_key_ne {t : Table} {rows : List t.Row} {r x : t.Row} (hx : x ∈ rows)
    (hk : t.key x ≠ t.key r) : x ∈ t.save rows r := by
  unfold Table.save
  split
  · exact List.mem_map.2 ⟨x, hx, by simp [hk]⟩
  · exact List.mem_append_left _ hx

theorem Store.Cached.mem {t : Table} {cacheType : CacheType} {s s' : Store} {r x : t.Row}
    (h : s.Cached t cacheType r s') (hx : x ∈ s'.rows t) : x ∈ s.rows t ∨ x = r := by
  cases cacheType with
  | cacheRefresh => rw [show s' = _ from h.2, Store.rows_setRows] at hx; exact Table.mem_save hx
  | cacheInsert => rw [h.2.2, Store.rows_setRows] at hx; simpa using hx

/-! ## Which tables a writer leaves alone -/

theorem cacheInfo_avoids {t t' : Table} (h : t' ≠ t) (row : t'.Row) (cacheType : CacheType) :
    (cacheInfo t' row cacheType).Avoids t := by
  have hw : ∀ r : t'.Row, (Call.update t' r).writes ≠ some t ∧ (Call.create t' r).writes ≠ some t :=
    fun _ => by simpa [Call.writes] using h
  refine Prog.Avoids.bind (timeNow_avoids t) fun n => ?_
  split
  · refine Prog.Avoids.bind (query_avoids (hw _).1) fun r => ?_
    rcases r with _ | _ <;> trivial
  · exact Prog.Avoids.bind (timeNow_avoids t) fun m => query_avoids (hw _).2

theorem cachePckCertChainInfo_avoids (t : Table) (pckCertChain : String) (cacheType : CacheType) :
    (cachePckCertChainInfo pckCertChain cacheType).Avoids t := by
  refine Prog.Avoids.bind (timeNow_avoids t) fun n => ?_
  split
  · refine Prog.Avoids.bind (query_avoids (by simp [Call.writes])) fun r => ?_
    rcases r with _ | _ <;> trivial
  · exact Prog.Avoids.bind (timeNow_avoids t) fun m => query_avoids (by simp [Call.writes])

theorem cachePlatformTcbInfo_avoids {t : Table} (h : Table.platformTcb ≠ t) (platform : Platform)
    (tcbm : String) (cacheType : CacheType) :
    (cachePlatformTcbInfo platform tcbm cacheType).Avoids t :=
  Prog.Avoids.bind (cacheInfo_avoids h _ _) fun _ => trivial

theorem fetchThenCache_avoids {t : Table} {fetch : Prog (Except String α)}
    {cache : α → Prog (Except String α)} (hf : fetch.Avoids t) (hc : ∀ a, (cache a).Avoids t) :
    (fetchThenCache fetch cache).Avoids t :=
  Prog.Avoids.bind hf fun r => by
    rcases r with _ | a
    exacts [trivial, hc a]

theorem getLazyCachePckCrl_avoids {t : Table} (h : Table.pckCrl ≠ t) (ca : String)
    (cacheType : CacheType) : (getLazyCachePckCrl ca cacheType).Avoids t :=
  fetchThenCache_avoids (fetchCollateral_avoids t _ _ _ _ _) fun _ => cacheInfo_avoids h _ _

theorem getLazyCacheFmspcTcbInfo_avoids {t : Table} (h : Table.fmspcTcbInfo ≠ t)
    (fmspc : String) (cacheType : CacheType) :
    (getLazyCacheFmspcTcbInfo fmspc cacheType).Avoids t :=
  fetchThenCache_avoids (fetchCollateral_avoids t _ _ _ _ _) fun _ => cacheInfo_avoids h _ _

theorem getLazyCacheQEIdentityInfo_avoids {t : Table} (h : Table.qeIdentity ≠ t)
    (cacheType : CacheType) : (getLazyCacheQEIdentityInfo cacheType).Avoids t :=
  fetchThenCache_avoids (fetchCollateral_avoids t _ _ _ _ _) fun _ => cacheInfo_avoids h _ _

/-! ## Platforms come after their certificate and TCB info -/

/-- Every `Platform` row has the `PckCert` row of its QE-ID and the `FmspcTcbInfo` row of its
FMSPC. -/
def Store.PlatformsBacked (s : Store) : Prop :=
  ∀ p ∈ s.platforms, s.HasKey .pckCert p.qeID ∧ s.HasKey .fmspcTcbInfo p.fmspc

/-- A program that writes no `Platform` row keeps every platform backed: it deletes nothing. -/
theorem Store.PlatformsBacked.of_avoids {p : Prog α} {s s' : Store} {e : Exit α}
    (hs : s.PlatformsBacked) (hp : p.Avoids .platform) (h : p.Runs s e s') :
    s'.PlatformsBacked := by
  intro q hq
  rw [show s'.platforms = s.platforms from hp.rows_eq h] at hq
  exact (hs q hq).imp (h.keeps _ _) (h.keeps _ _)

/-- Writing a platform whose certificate and TCB info are present keeps every platform
backed. -/
theorem cacheInfo_platform_backed {row : Platform} {cacheType : CacheType} {s s' : Store}
    {e : Exit (Except String Platform)} (h : (cacheInfo .platform row cacheType).Runs s e s')
    (hs : s.PlatformsBacked) (hc : s.HasKey .pckCert row.qeID)
    (hf : s.HasKey .fmspcTcbInfo row.fmspc) : s'.PlatformsBacked := by
  rcases cacheInfo_runs h with ⟨n, m, -, hw⟩ | ⟨err, -, rfl⟩
  · have hkeep : s.Keeps s' := h.keeps
    intro q hq
    rcases hw.mem hq with hq | rfl
    · exact (hs q hq).imp (hkeep _ _) (hkeep _ _)
    · cases cacheType <;> exact ⟨hkeep _ _ hc, hkeep _ _ hf⟩
  · exact hs

theorem cachePlatformInfo_backed {platform : Platform} {cacheType : CacheType} {s s' : Store}
    {e : Exit (Except String Unit)} (h : (cachePlatformInfo platform cacheType).Runs s e s')
    (hs : s.PlatformsBacked) (hc : s.HasKey .pckCert platform.qeID)
    (hf : s.HasKey .fmspcTcbInfo platform.fmspc) : s'.PlatformsBacked := by
  obtain ⟨r, s₁, h₁, h⟩ | ⟨m, h₁, -⟩ := Prog.runs_bind.1 h
  · rw [(Prog.runs_pure.1 h).2]
    exact cacheInfo_platform_backed h₁ hs hc hf
  · exact cacheInfo_platform_backed h₁ hs hc hf

theorem Table.stamped_pckCert_fmspc (row : PckCert) (cacheType : CacheType) (n m : Nat) :
    (Table.pckCert.stamped row cacheType n m).fmspc = row.fmspc := by
  cases cacheType <;> rfl

/-- The runs of `getLazyCachePckCert` keep every platform backed: the chain writes the
`Platform` row after the `PckCert` row of the same QE-ID and the `FmspcTcbInfo` row of the FMSPC
it records. -/
theorem getLazyCachePckCert_runs {lib : Lib} {platform : Platform} {cacheType : CacheType}
    {s s' : Store} {e : Exit (Except String (PckCert × Platform × String))}
    (h : (getLazyCachePckCert lib platform cacheType).Runs s e s') (hs : s.PlatformsBacked) :
    s'.PlatformsBacked := by
  -- the certificates: nothing written
  rcases Prog.runs_bind_ok h fun _ => rfl with ⟨⟨pc, ft, chain, ca⟩, s₁, h₁, h⟩ | ⟨⟨_, h₁⟩, -⟩
  swap
  · exact hs.of_avoids (fetchPckCertInfo_avoids _ _ _) h₁
  obtain ⟨rfl, hr⟩ := fetchPckCertInfo_runs h₁
  obtain ⟨resp, pci, idx, hread, hft, -, rfl⟩ := hr _ rfl
  have hqe : pci.qeID = platform.qeID := readPckCerts_qeID hread
  -- the chain, the certificate row and the TCB info row: no platform written
  have hav₂ := cachePckCertChainInfo_avoids .platform chain cacheType
  rcases Prog.runs_bind_ok h fun _ => rfl with ⟨certChain, s₂, h₂, h⟩ | ⟨⟨_, h₂⟩, -⟩
  swap
  · exact hs.of_avoids hav₂ h₂
  have hs₂ := hs.of_avoids hav₂ h₂
  have hav₃ : (cachePckCertInfo { pci with certIndex := idx, pckCertChainID := certChain.id }
      cacheType).Avoids .platform := cacheInfo_avoids (by decide) _ _
  rcases Prog.runs_bind_ok h fun _ => rfl with ⟨pckCert, s₃, h₃, h⟩ | ⟨⟨_, h₃⟩, -⟩
  swap
  · exact hs₂.of_avoids hav₃ h₃
  have hs₃ := hs₂.of_avoids hav₃ h₃
  obtain ⟨n, m, hret, hw₃⟩ | ⟨_, ⟨⟩, -⟩ := cacheInfo_runs h₃
  cases hret
  have hc₃ : s₃.HasKey .pckCert platform.qeID := by
    have := hw₃.hasKey
    rw [Table.key_stamped] at this
    simpa [Table.key, hqe] using this
  have hav₄ : (cacheFmspcTcbInfo ft cacheType).Avoids .platform := cacheInfo_avoids (by decide) _ _
  rcases Prog.runs_bind_ok h fun _ => rfl with ⟨_, s₄, h₄, h⟩ | ⟨⟨_, h₄⟩, -⟩
  swap
  · exact hs₃.of_avoids hav₄ h₄
  obtain ⟨n', m', -, hw₄⟩ | ⟨_, ⟨⟩, -⟩ := cacheInfo_runs h₄
  have hf₄ : s₄.HasKey .fmspcTcbInfo
      (Table.pckCert.stamped { pci with certIndex := idx, pckCertChainID := certChain.id }
        cacheType n m).fmspc := by
    have := hw₄.hasKey
    rw [Table.key_stamped] at this
    simpa [Table.key, Table.stamped_pckCert_fmspc, show ft.fmspc = pci.fmspc from hft] using this
  -- the platform row, after both
  have hs₄ := hs₃.of_avoids hav₄ h₄
  rcases Prog.runs_bind_ok h fun _ => rfl with ⟨_, s₅, h₅, h⟩ | ⟨⟨_, h₅⟩, -⟩
  swap
  · exact cachePlatformInfo_backed h₅ hs₄ (h₄.keeps _ _ hc₃) hf₄
  have hs₅ := cachePlatformInfo_backed h₅ hs₄ (h₄.keeps _ _ hc₃) hf₄
  -- the platform's TCB row
  dsimp only at h
  split at h
  · rwa [(Prog.runs_panic.1 h).2]
  obtain ⟨_, h₆⟩ := Prog.runs_bind_pure h fun r => by rcases r with _ | ⟨⟩ <;> exact ⟨_, rfl⟩
  exact hs₅.of_avoids (cachePlatformTcbInfo_avoids (by decide) _ _ _) h₆

/-! ## Among other threads -/

/-- A cache writer among other threads that returns a row wrote that row, stamped, into some
later store. -/
theorem cacheInfo_runsAmid_ok {t : Table} {row v : t.Row} {cacheType : CacheType}
    {xs : List Exchange} {s s' : Store}
    (h : (cacheInfo t row cacheType).RunsAmid xs s (.returned (.ok v)) s') :
    ∃ s₀ s₁ n m, s.Keeps s₀ ∧ v = t.stamped row cacheType n m ∧
      s₀.Cached t cacheType v s₁ ∧ s₁.Keeps s' := by
  rcases Prog.runsAmid_bind h with ⟨n, s₁, xs₁, xs₂, -, h₁, h⟩ | ⟨m, h₁, -⟩
  swap
  · obtain ⟨-, -, _, ⟨⟩⟩ := timeNow_runsAmid h₁
  obtain ⟨-, hk₁, _, ⟨⟩⟩ := timeNow_runsAmid h₁
  cases cacheType with
  | cacheRefresh =>
    rw [if_pos rfl] at h
    rcases Prog.runsAmid_bind h with ⟨r, s₂, xs₃, xs₄, -, h₂, h₃⟩ | ⟨m, h₂, -⟩
    swap
    · obtain ⟨_, _, _, -, -, -, -, ⟨⟩⟩ := query_runsAmid h₂
    obtain ⟨s₃, b, s₄, hk₃, ho, hk₄, -, ⟨⟩⟩ := query_runsAmid h₂
    rcases Call.outcome_update ho with ⟨rfl, hfk, rfl⟩ | ⟨⟨err, rfl⟩, rfl⟩
    · obtain ⟨-, ⟨⟩, hk₅⟩ := Prog.runsAmid_pure.1 h₃
      exact ⟨s₃, _, n, 0, hk₁.trans hk₃, rfl, ⟨hfk, rfl⟩, hk₄.trans hk₅⟩
    · cases (Prog.runsAmid_pure.1 h₃).2.1
  | cacheInsert =>
    rw [if_neg nofun] at h
    rcases Prog.runsAmid_bind h with ⟨m, s₂, xs₃, xs₄, -, h₂, h₃⟩ | ⟨m, h₂, -⟩
    swap
    · obtain ⟨-, -, _, ⟨⟩⟩ := timeNow_runsAmid h₂
    obtain ⟨-, hk₂, _, ⟨⟩⟩ := timeNow_runsAmid h₂
    obtain ⟨s₃, b, s₄, hk₃, ho, hk₄, -, hb⟩ := query_runsAmid h₃
    cases hb
    rcases Call.outcome_create ho with ⟨hv, hnew, hfk, rfl⟩ | ⟨⟨err, ⟨⟩⟩, -⟩
    cases hv
    exact ⟨s₃, _, n, m, hk₁.trans (hk₂.trans hk₃), rfl, ⟨hfk, hnew, rfl⟩, hk₄⟩

/-- When `cachePlatformInfo` returns among other threads, a `Platform` row of the platform's
QE-ID is in the store. -/
theorem cachePlatformInfo_runsAmid_ok {platform : Platform} {cacheType : CacheType}
    {xs : List Exchange} {s s' : Store}
    (h : (cachePlatformInfo platform cacheType).RunsAmid xs s (.returned (.ok ())) s') :
    s'.HasKey .platform platform.qeID := by
  obtain ⟨v, s₁, _, _, -, h₁, h₂⟩ := Prog.runsAmid_bind_ok h fun _ => rfl
  obtain ⟨_, s₂, n, m, -, rfl, hw, hk⟩ := cacheInfo_runsAmid_ok h₁
  have hp := (hk.trans (Prog.runsAmid_pure.1 h₂).2.2) _ _ hw.hasKey
  rwa [Table.key_stamped] at hp

/-- A collateral chain among other threads that returns leaves a row under the key that every
row its fetch builds has. -/
theorem fetchThenCache_runsAmid_hasKey {t : Table} {req : PcsRequest}
    {statusError contentError chainHeader k : String} {build : String → String → t.Row}
    {cacheType : CacheType} {xs : List Exchange} {s s' : Store} {v : t.Row}
    (h : (fetchThenCache (fetchCollateral (upstream req) statusError contentError chainHeader build)
      fun row => cacheInfo t row cacheType).RunsAmid xs s (.returned (.ok v)) s')
    (hk : ∀ chain body, t.key (build chain body) = k) : s'.HasKey t k := by
  obtain ⟨row, s₁, _, _, -, h₁, h₂⟩ := Prog.runsAmid_bind_ok h fun _ => rfl
  obtain ⟨_, _, -, -, -, rfl⟩ := fetchCollateral_runsAmid_returns h₁
  obtain ⟨_, _, n, m, -, rfl, hw, hk'⟩ := cacheInfo_runsAmid_ok h₂
  exact hk' _ _ (by simpa [hk] using hw.hasKey)

/-- When `getLazyCachePckCrl` returns among other threads, the store has a CRL row for the CA
type. -/
theorem getLazyCachePckCrl_runsAmid_ok {ca : String} {cacheType : CacheType}
    {xs : List Exchange} {s s' : Store} {v : PckCrl}
    (h : (getLazyCachePckCrl ca cacheType).RunsAmid xs s (.returned (.ok v)) s') :
    s'.HasKey .pckCrl ca := by
  unfold getLazyCachePckCrl fetchPckCrlInfo getPckCrlFromProvServer cachePckCrlInfo at h
  exact fetchThenCache_runsAmid_hasKey h fun _ _ => rfl

/-- When `getLazyCacheQEIdentityInfo` returns among other threads, the store has a QE identity
row. -/
theorem getLazyCacheQEIdentityInfo_runsAmid_ok {cacheType : CacheType} {xs : List Exchange}
    {s s' : Store} {v : QEIdentity}
    (h : (getLazyCacheQEIdentityInfo cacheType).RunsAmid xs s (.returned (.ok v)) s') :
    s'.HasKey .qeIdentity "" := by
  unfold getLazyCacheQEIdentityInfo fetchQeIdentityInfo getQeInfoFromProvServer
    cacheQeIdentityInfo at h
  exact fetchThenCache_runsAmid_hasKey h fun _ _ => rfl

/-- A `getLazyCachePckCert` that returns among other threads got, at its first exchange, the
`/pckcerts` reply its CA type and FMSPC come from, and leaves a `Platform` row of the QE-ID. In
`CacheInsert` mode it created the certificate and the TCB info, so neither was in the store it
started from. -/
theorem getLazyCachePckCert_runsAmid_ok {lib : Lib} {platform : Platform}
    {cacheType : CacheType} {xs : List Exchange} {s s' : Store} {pckCert : PckCert}
    {platform' : Platform} {ca : String}
    (h : (getLazyCachePckCert lib platform cacheType).RunsAmid xs s
      (.returned (.ok (pckCert, platform', ca))) s') :
    ∃ resp rest pckCertInfo pckCertChain, xs = (pckCertsRequest platform, .ok resp) :: rest ∧
      readPckCerts lib platform resp = .ok (pckCertInfo, pckCertChain, ca) ∧
      platform'.fmspc = pckCertInfo.fmspc ∧ s'.HasKey .platform platform.qeID ∧
      (cacheType = .cacheInsert → ¬ s.HasKey .pckCert platform.qeID ∧
        ¬ s.HasKey .fmspcTcbInfo pckCertInfo.fmspc) := by
  obtain ⟨⟨pci, ft, chain, ca'⟩, s₁, xs₁, xs₂, rfl, h₁, hk₁⟩ :=
    Prog.runsAmid_bind_ok h fun _ => rfl
  obtain ⟨resp, rest, pckCertInfo, rfl, hread, hft, -, hpci⟩ := fetchPckCertInfo_runsAmid h₁
  dsimp only at hread hft hpci
  obtain ⟨certChain, s₂, xs₃, xs₄, rfl, h₂, hk₂⟩ := Prog.runsAmid_bind_ok hk₁ fun _ => rfl
  obtain ⟨pc, s₃, xs₅, xs₆, rfl, h₃, hk₃⟩ := Prog.runsAmid_bind_ok hk₂ fun _ => rfl
  obtain ⟨ft', s₄, xs₇, xs₈, rfl, h₄, hk₄⟩ := Prog.runsAmid_bind_ok hk₃ fun _ => rfl
  obtain ⟨⟨⟩, s₅, xs₉, xs₁₀, rfl, h₅, hk₅⟩ := Prog.runsAmid_bind_ok hk₄ fun _ => rfl
  dsimp only at hk₅
  split at hk₅
  · cases hk₅
  obtain ⟨⟨⟩, s₆, xs₁₁, xs₁₂, rfl, h₆, hk₆⟩ := Prog.runsAmid_bind_ok hk₅ fun _ => rfl
  obtain ⟨-, ⟨⟩, hk₇⟩ := Prog.runsAmid_pure.1 hk₆
  obtain ⟨s₃₀, _, n, m, hk₃₀, rfl, hw₃, -⟩ := cacheInfo_runsAmid_ok h₃
  have hq₀ := readPckCerts_qeID hread
  have hq : pci.qeID = platform.qeID := (congrArg PckCert.qeID hpci).trans hq₀
  have hf₀ := congrArg PckCert.fmspc hpci
  have hf : pci.fmspc = pckCertInfo.fmspc := hf₀
  have hp₅ := cachePlatformInfo_runsAmid_ok h₅
  refine ⟨resp, _, pckCertInfo, chain, rfl, hread, (Table.stamped_pckCert_fmspc _ _ _ _).trans hf,
    (h₆.keeps.trans hk₇) _ _ hp₅, ?_⟩
  rintro rfl
  obtain ⟨s₄₀, _, n', m', hk₄₀, rfl, hw₄, -⟩ := cacheInfo_runsAmid_ok h₄
  refine ⟨fun hc => hw₃.2.1 ?_, fun hc => hw₄.2.1 ?_⟩
  · rw [Table.key_stamped,
      show Table.pckCert.key { pci with pckCertChainID := certChain.id } = platform.qeID from hq]
    exact (h₁.keeps.trans (h₂.keeps.trans hk₃₀)) _ _ hc
  · rw [Table.key_stamped, show Table.fmspcTcbInfo.key ft = pckCertInfo.fmspc from hft]
    exact (h₁.keeps.trans (h₂.keeps.trans (h₃.keeps.trans hk₄₀))) _ _ hc

end SgxCachingService
