/-
  SGX caching service: the refresh walks (§4.5 "Refresh all", §4.6).

  `refreshPckCerts` fetches the certificates of every `Platform` row again and `Update`s the
  `PckCert` row of each; `refreshAllPckCrl`, `refreshAllTcbInfo` and `refreshAllQE` run the
  lazy-cache chains in `CacheRefresh` mode over the rows of their table. Each walk but the QE
  one is `refreshAll`: a `refreshWalk` over the rows it read first, stopping at the first
  error. The timer callback and the `refreshPlatformInfo` handler sequence them. A refresh
  writes no `Platform` row (`refreshPlatformInfo_avoids`, `refreshPlatformInfoTimer_avoids`).

  A run of a walk is a prefix `done` of its rows whose items returned success one after the
  other, then the item that failed, if one did (`Walked`, `refreshWalk_runs`). An item writes
  only the row under its own key, and nothing when it fails (`Store.ChangedOnly`): with the keys
  unique, the rows past `done` and every other table are as they were (`refreshPckCerts_frame`,
  `refreshAllPckCrl_frame`, `refreshAllTcbInfo_frame`).

  `Update` is gorm's `Save`: it writes every column of a struct the refresh built fresh, so a
  refreshed collateral's `CreatedTime` becomes the zero time (the last section).
-/
import SgxCachingService.Push

namespace SgxCachingService

/-- The loop of a refresh walk: each item in turn, stopping at the first error. -/
def refreshWalk (item : α → Prog (Except String Unit)) : List α → Prog (Except String Unit)
  | [] => return .ok ()
  | a :: rest => do
    match ← item a with
    | .error err => return .error err
    | .ok () => refreshWalk item rest

/-- `existing, _ := RetrieveAll()`: the rows of a table, none when the statement fails. -/
def retrieveAllRows (t : Table) : Prog (List t.Row) := do
  match ← query (.retrieveAll t) with
  | .ok rows => return rows
  | .error _ => return []

/-- One platform of `refreshPckCerts`: fetch its certificates again and `Update` its
`PckCert` row. -/
def refreshPckCert (lib : Lib) (platform : Platform) : Prog (Except String Unit) := do
  match ← fetchPckCertInfo lib platform with
  | .error err => return .error ("pck cert refresh failed: " ++ err)
  | .ok (pckCertInfo, _, _, _) =>
  match ← cachePckCertInfo pckCertInfo .cacheRefresh with
  | .error err => return .error ("Error in Cache Pck Cert Info: " ++ err)
  | .ok _ => return .ok ()

/-- The shape of the walks over a whole table (`refreshPckCerts`, `refreshAllPckCrl`,
`refreshAllTcbInfo`): read every row, fail when there is none, then `item` for each row. -/
def refreshAll (t : Table) (noRows : String) (item : t.Row → Prog (Except String Unit)) :
    Prog (Except String Unit) := do
  let existing ← retrieveAllRows t
  if existing.length = 0 then
    return .error noRows
  refreshWalk item existing

def refreshPckCerts (lib : Lib) : Prog (Except String Unit) :=
  refreshAll .platform "no platform value records are found in db, cannot perform refresh"
    (refreshPckCert lib)

/-- One item of a collateral walk: its lazy-cache chain in `CacheRefresh` mode, the error
under the walk's own words. -/
def refreshItem (lazyCache : Prog (Except String β)) (context : String) :
    Prog (Except String Unit) := do
  match ← lazyCache with
  | .error err => return .error (context ++ err)
  | .ok _ => return .ok ()

/-- One CRL of `refreshAllPckCrl`: `getLazyCachePckCrl(db, existingPckCrlData[n].Ca, …)`. -/
def refreshPckCrl (pckCrl : PckCrl) : Prog (Except String Unit) :=
  refreshItem (getLazyCachePckCrl pckCrl.ca .cacheRefresh) "refresh of pckcrl failed: "

def refreshAllPckCrl : Prog (Except String Unit) :=
  refreshAll .pckCrl "no pck crl record found in db, cannot perform refresh operation"
    refreshPckCrl

/-- One TCB info of `refreshAllTcbInfo`: `getLazyCacheFmspcTcbInfo(db, existingTcbInfoData[n].Fmspc,
…)`. -/
def refreshTcbInfo (tcbInfo : FmspcTcbInfo) : Prog (Except String Unit) :=
  refreshItem (getLazyCacheFmspcTcbInfo tcbInfo.fmspc .cacheRefresh) "Error in Refresh Tcb info: "

def refreshAllTcbInfo : Prog (Except String Unit) :=
  refreshAll .fmspcTcbInfo "no tcbinfo record found in db, cannot perform refresh operation"
    refreshTcbInfo

/-- Unlike the other walks, one `Retrieve` and one chain: there is a single QE identity. -/
def refreshAllQE : Prog (Except String Unit) := do
  match ← query (.retrieve .qeIdentity "") with
  | .error _ => return .error "no qe identity record found in db, cannot perform refresh operation"
  | .ok _ =>
    refreshItem (getLazyCacheQEIdentityInfo .cacheRefresh) "Error in Refresh QEIdentity info: "

/-- `refreshNonPCKCollaterals`: the CRLs, the TCB infos, then the QE identity. -/
def refreshNonPCKCollaterals : Prog (Except String Unit) := do
  match ← refreshAllPckCrl with
  | .error err => return .error err
  | .ok () =>
  match ← refreshAllTcbInfo with
  | .error err => return .error err
  | .ok () => refreshAllQE

/-- `RefreshPlatformInfoTimer`: the task the timer names. -/
def refreshPlatformInfoTimer (lib : Lib) (rtype : String) : Prog (Except String Unit) :=
  if rtype = typeRefreshCert then refreshPckCerts lib
  else if rtype = typeRefreshTcb then refreshNonPCKCollaterals
  else return .ok ()

/-- `refreshPlatformInfo` after authorization: both walks, one answer. -/
def refreshPlatformInfo (lib : Lib) : Prog Reply := do
  match ← refreshPckCerts lib with
  | .error _ =>
    return .written statusNotFound ⟨"Failure", "could not find platform info in database"⟩
  | .ok () =>
  match ← refreshNonPCKCollaterals with
  | .error _ =>
    return .written statusNotFound ⟨"Failure", "could not find platform info in database"⟩
  | .ok () => return .written statusOK ⟨"Success", "sgx collaterals refreshed successfully"⟩

/-! ## What a refresh writes -/

theorem refreshWalk_avoids {t : Table} {item : α → Prog (Except String Unit)}
    (h : ∀ a, (item a).Avoids t) : ∀ xs, (refreshWalk item xs).Avoids t
  | [] => trivial
  | a :: rest => Prog.Avoids.bind (h a) fun r => by
    rcases r with _ | ⟨⟩
    exacts [trivial, refreshWalk_avoids h rest]

theorem refreshAll_avoids {t t' : Table} {item : t'.Row → Prog (Except String Unit)}
    (h : ∀ a, (item a).Avoids t) (noRows : String) : (refreshAll t' noRows item).Avoids t :=
  Prog.Avoids.bind (Prog.Avoids.bind (query_avoids (by simp [Call.writes])) fun r => by
      rcases r with _ | _ <;> trivial) fun rows => by
    dsimp only
    split
    exacts [trivial, refreshWalk_avoids h rows]

theorem refreshItem_avoids {t : Table} {lazyCache : Prog (Except String β)}
    (h : lazyCache.Avoids t) (context : String) : (refreshItem lazyCache context).Avoids t :=
  Prog.Avoids.bind h fun r => by rcases r with _ | _ <;> trivial

theorem refreshPckCert_avoids {t : Table} (h : Table.pckCert ≠ t) (lib : Lib)
    (platform : Platform) : (refreshPckCert lib platform).Avoids t :=
  Prog.Avoids.bind (fetchPckCertInfo_avoids t lib platform) fun r => by
    rcases r with _ | _
    · trivial
    · exact Prog.Avoids.bind (cacheInfo_avoids h _ _) fun r => by rcases r with _ | _ <;> trivial

theorem refreshPckCerts_avoids {t : Table} (h : Table.pckCert ≠ t) (lib : Lib) :
    (refreshPckCerts lib).Avoids t :=
  refreshAll_avoids (refreshPckCert_avoids h lib) _

section
variable {t : Table} (hcrl : Table.pckCrl ≠ t) (htcb : Table.fmspcTcbInfo ≠ t)
  (hqe : Table.qeIdentity ≠ t)
include hcrl htcb hqe

theorem refreshNonPCKCollaterals_avoids : refreshNonPCKCollaterals.Avoids t := by
  refine Prog.Avoids.bind (refreshAll_avoids (fun _ =>
    refreshItem_avoids (getLazyCachePckCrl_avoids hcrl _ _) _) _) fun r => ?_
  rcases r with _ | ⟨⟩
  · trivial
  refine Prog.Avoids.bind (refreshAll_avoids (fun _ =>
    refreshItem_avoids (getLazyCacheFmspcTcbInfo_avoids htcb _ _) _) _) fun r => ?_
  rcases r with _ | ⟨⟩
  · trivial
  refine Prog.Avoids.bind (query_avoids (by simp [Call.writes])) fun r => ?_
  rcases r with _ | _
  exacts [trivial, refreshItem_avoids (getLazyCacheQEIdentityInfo_avoids hqe _) _]

theorem refreshPlatformInfoTimer_avoids (hpck : Table.pckCert ≠ t) (lib : Lib)
    (rtype : String) : (refreshPlatformInfoTimer lib rtype).Avoids t := by
  unfold refreshPlatformInfoTimer
  split_ifs
  exacts [refreshPckCerts_avoids hpck lib, refreshNonPCKCollaterals_avoids hcrl htcb hqe, trivial]

theorem refreshPlatformInfo_avoids (hpck : Table.pckCert ≠ t) (lib : Lib) :
    (refreshPlatformInfo lib).Avoids t := by
  refine Prog.Avoids.bind (refreshPckCerts_avoids hpck lib) fun r => ?_
  rcases r with _ | ⟨⟩
  · trivial
  refine Prog.Avoids.bind (refreshNonPCKCollaterals_avoids hcrl htcb hqe) fun r => ?_
  rcases r with _ | ⟨⟩ <;> trivial

end

/-! ## The runs of a walk -/

/-- Items of a walk that returned success one after the other, from `s` to `s'`. -/
inductive Walked (item : α → Prog (Except String Unit)) : List α → Store → Store → Prop
  | nil (s : Store) : Walked item [] s s
  | cons {x : α} {xs : List α} {s s₁ s' : Store} (hx : (item x).Runs s (.returned (.ok ())) s₁)
      (hxs : Walked item xs s₁ s') : Walked item (x :: xs) s s'

/-- The runs of a walk: the items of a prefix `done` return success one after the other; then
the walk has returned success, `done` being all of it, or the next item failed and the walk
with it. -/
theorem refreshWalk_runs {item : α → Prog (Except String Unit)} :
    ∀ {xs : List α} {s s' : Store} {e : Exit (Except String Unit)},
      (refreshWalk item xs).Runs s e s' →
      ∃ done s₁, Walked item done s s₁ ∧
        (done = xs ∧ e = .returned (.ok ()) ∧ s₁ = s' ∨
          ∃ x rest, xs = done ++ x :: rest ∧ (item x).Runs s₁ e s' ∧ e ≠ .returned (.ok ()))
  | [], s, s', e, h => by
    obtain ⟨rfl, rfl⟩ := Prog.runs_pure.1 h
    exact ⟨[], _, .nil _, .inl ⟨rfl, rfl, rfl⟩⟩
  | x :: xs, s, s', e, h => by
    rcases Prog.runs_bind.1 h with ⟨r, s₁, h₁, h₂⟩ | ⟨m, h₁, rfl⟩
    · rcases r with err | ⟨⟩
      · obtain ⟨rfl, rfl⟩ := Prog.runs_pure.1 h₂
        exact ⟨[], s, .nil s, .inr ⟨x, xs, rfl, h₁, nofun⟩⟩
      · obtain ⟨done, s₂, hw, hd⟩ := refreshWalk_runs h₂
        refine ⟨x :: done, s₂, .cons h₁ hw, ?_⟩
        rcases hd with ⟨rfl, he, hs⟩ | ⟨y, rest, rfl, hy, he⟩
        exacts [.inl ⟨rfl, he, hs⟩, .inr ⟨y, rest, rfl, hy, he⟩]
    · exact ⟨[], s, .nil s, .inr ⟨x, xs, rfl, h₁, nofun⟩⟩

theorem retrieveAllRows_runs {t : Table} {s s' : Store} {e : Exit (List t.Row)}
    (h : (retrieveAllRows t).Runs s e s') :
    s' = s ∧ ∃ rows, e = .returned rows ∧ (rows = s.rows t ∨ rows = []) := by
  rcases Prog.runs_bind.1 h with ⟨r, s₁, h₁, h₂⟩ | ⟨m, h₁, -⟩
  swap
  · simp at h₁
  obtain ⟨b, ho, hb⟩ := query_runs.1 h₁
  rcases Exit.returned.inj hb with rfl
  have hs₁ := ho.eq_of_isRead (by trivial)
  subst hs₁
  rcases r with err | rows
  · obtain ⟨rfl, rfl⟩ := Prog.runs_pure.1 h₂
    exact ⟨rfl, [], rfl, .inr rfl⟩
  · obtain ⟨rfl, rfl⟩ := Prog.runs_pure.1 h₂
    simp only [Call.Outcome, Call.exec, Call.failure, Option.some.injEq, Prod.mk.injEq,
      Except.ok.injEq] at ho
    rcases ho with ⟨rfl, -⟩ | ⟨⟨_, ⟨⟩⟩, -⟩
    exact ⟨rfl, _, rfl, .inl rfl⟩

/-- A walk over a whole table fails at once when it reads no row, which it does when the table
is empty, and otherwise walks the rows the table has. -/
theorem refreshAll_runs {t : Table} {noRows : String} {item : t.Row → Prog (Except String Unit)}
    {s s' : Store} {e : Exit (Except String Unit)} (h : (refreshAll t noRows item).Runs s e s') :
    (e = .returned (.error noRows) ∧ s' = s) ∨
      (s.rows t ≠ [] ∧ (refreshWalk item (s.rows t)).Runs s e s') := by
  rcases Prog.runs_bind.1 h with ⟨rows, s₁, h₁, h₂⟩ | ⟨m, h₁, rfl⟩
  swap
  · obtain ⟨-, _, ⟨⟩, -⟩ := retrieveAllRows_runs h₁
  obtain ⟨rfl, _, hr, hrows⟩ := retrieveAllRows_runs h₁
  rcases Exit.returned.inj hr with rfl
  dsimp only at h₂
  split at h₂
  · exact .inl (Prog.runs_pure.1 h₂)
  rename_i hne
  obtain rfl : rows = s₁.rows t := hrows.resolve_right fun h0 => hne (by rw [h0]; rfl)
  exact .inr ⟨fun h0 => hne (by rw [h0]; rfl), h₂⟩

/-- What a run of a walk over `rows` did, from `s` to `s'` with answer `e`: the items of the
prefix `done` returned success one after the other; then `done` is all of `rows` and the walk
returned success, or the item of the next row failed with the walk's answer and changed
nothing. -/
def WalkedPrefix (item : α → Prog (Except String Unit)) (rows done : List α) (s s' : Store)
    (e : Exit (Except String Unit)) : Prop :=
  Walked item done s s' ∧
    (done = rows ∧ e = .returned (.ok ()) ∨
      ∃ x rest, rows = done ++ x :: rest ∧ (item x).Runs s' e s' ∧ e ≠ .returned (.ok ()))

theorem WalkedPrefix.prefix {item : α → Prog (Except String Unit)} {rows done : List α}
    {s s' : Store} {e : Exit (Except String Unit)} (h : WalkedPrefix item rows done s s' e) :
    done <+: rows := by
  rcases h.2 with ⟨rfl, -⟩ | ⟨x, rest, rfl, -⟩
  exacts [List.prefix_refl _, List.prefix_append _ _]

/-- From `s` to `s'` only rows of `t` under the keys `ks` changed: the other keyed tables are as
they were, and every row of `t` under another key is still there. -/
def Store.ChangedOnly (t : Table) (ks : List String) (s s' : Store) : Prop :=
  (∀ t', t' ≠ t → s'.rows t' = s.rows t') ∧ ∀ r ∈ s.rows t, t.key r ∉ ks → r ∈ s'.rows t

theorem Store.ChangedOnly.refl (t : Table) (ks : List String) (s : Store) :
    s.ChangedOnly t ks s :=
  ⟨fun _ _ => rfl, fun _ hr _ => hr⟩

theorem Store.ChangedOnly.trans {t : Table} {ks ks' : List String} {s₁ s₂ s₃ : Store}
    (h₁ : s₁.ChangedOnly t ks s₂) (h₂ : s₂.ChangedOnly t ks' s₃) :
    s₁.ChangedOnly t (ks ++ ks') s₃ := by
  refine ⟨fun t' ht => (h₂.1 t' ht).trans (h₁.1 t' ht), fun r hr hk => ?_⟩
  rw [List.mem_append, not_or] at hk
  exact h₂.2 r (h₁.2 r hr hk.1) hk.2

/-- Items that each change only the rows under their key change, walked, only the rows under
the keys walked. -/
theorem Walked.changedOnly {t : Table} {item : α → Prog (Except String Unit)}
    (itemKey : α → String)
    (hitem : ∀ x {s s' : Store} {e}, (item x).Runs s e s' → s.ChangedOnly t [itemKey x] s')
    {done : List α} {s s' : Store} (h : Walked item done s s') :
    s.ChangedOnly t (done.map itemKey) s' := by
  induction h with
  | nil s => exact .refl _ _ _
  | cons hx _ ih => exact (hitem _ hx).trans ih

/-- A walk whose items each change only the rows under their key, and change nothing when they
fail: it read no row and changed nothing, or it walked a prefix `done` of the table and changed
only the rows under the keys of `done`. -/
theorem refreshAll_walked {t t' : Table} {noRows : String}
    {item : t'.Row → Prog (Except String Unit)} (itemKey : t'.Row → String)
    (hitem : ∀ x {s s' : Store} {e}, (item x).Runs s e s' → s.ChangedOnly t [itemKey x] s')
    (hfail : ∀ x {s s' : Store} {e}, (item x).Runs s e s' → e ≠ .returned (.ok ()) → s' = s)
    {s s' : Store} {e : Exit (Except String Unit)} (h : (refreshAll t' noRows item).Runs s e s') :
    ∃ done, (e = .returned (.error noRows) ∧ s' = s ∧ done = [] ∨
        WalkedPrefix item (s.rows t') done s s' e) ∧
      done <+: s.rows t' ∧ s.ChangedOnly t (done.map itemKey) s' := by
  rcases refreshAll_runs h with ⟨he, rfl⟩ | ⟨-, hw⟩
  · exact ⟨[], .inl ⟨he, rfl, rfl⟩, List.nil_prefix, .refl _ _ _⟩
  obtain ⟨done, s₁, hd, ⟨rfl, he, rfl⟩ | ⟨x, rest, hrows, hx, he⟩⟩ := refreshWalk_runs hw
  · exact ⟨_, .inr ⟨hd, .inl ⟨rfl, he⟩⟩, List.prefix_refl _, hd.changedOnly itemKey hitem⟩
  · obtain rfl := hfail x hx he
    have hp : WalkedPrefix item (s.rows t') done s _ e := ⟨hd, .inr ⟨x, rest, hrows, hx, he⟩⟩
    exact ⟨done, .inr hp, hp.prefix, hd.changedOnly itemKey hitem⟩

/-! ## What one item writes -/

/-- A cache writer in `CacheRefresh` mode changes only the row under its row's key. -/
theorem cacheInfo_refresh_changedOnly {t : Table} {row : t.Row} {s s' : Store}
    {e : Exit (Except String t.Row)} (h : (cacheInfo t row .cacheRefresh).Runs s e s') :
    s.ChangedOnly t [t.key row] s' := by
  rcases cacheInfo_runs h with ⟨n, m, -, hw⟩ | ⟨_, -, rfl⟩
  · rw [show s' = _ from hw.2]
    refine ⟨fun t' ht => Store.rows_setRows_of_ne ht _ _, fun r hr hk => ?_⟩
    rw [Store.rows_setRows]
    exact Table.mem_save_of_key_ne hr (by simpa [Table.stamped] using hk)
  · exact .refl _ _ _

theorem refreshPckCert_changedOnly {lib : Lib} {platform : Platform} {s s' : Store}
    {e : Exit (Except String Unit)} (h : (refreshPckCert lib platform).Runs s e s') :
    s.ChangedOnly .pckCert [platform.qeID] s' := by
  rcases Prog.runs_bind.1 h with ⟨r, s₁, h₁, h₂⟩ | ⟨m, h₁, -⟩
  swap
  · rw [(fetchPckCertInfo_runs h₁).1]
    exact .refl _ _ _
  obtain ⟨hs₁, hr⟩ := fetchPckCertInfo_runs h₁
  subst hs₁
  rcases r with err | ⟨pci, ft, chain, ca⟩
  · rw [(Prog.runs_pure.1 h₂).2]
    exact .refl _ _ _
  obtain ⟨resp, pckCertInfo, certIndex, hread, -, -, rfl⟩ := hr _ rfl
  obtain ⟨_, h₃⟩ := Prog.runs_bind_pure h₂ fun r => by rcases r with _ | _ <;> exact ⟨_, rfl⟩
  simpa [Table.key, readPckCerts_qeID hread] using cacheInfo_refresh_changedOnly h₃

/-- A refresh of one platform that does not return success changed nothing: the fetch only
reads, and a failed `Update` writes nothing. -/
theorem refreshPckCert_fails_unchanged {lib : Lib} {platform : Platform} {s s' : Store}
    {e : Exit (Except String Unit)} (h : (refreshPckCert lib platform).Runs s e s')
    (he : e ≠ .returned (.ok ())) : s' = s := by
  rcases Prog.runs_bind.1 h with ⟨r, s₁, h₁, h₂⟩ | ⟨m, h₁, -⟩
  swap
  · exact (fetchPckCertInfo_runs h₁).1
  obtain ⟨rfl, -⟩ := fetchPckCertInfo_runs h₁
  rcases r with err | ⟨pci, ft, chain, ca⟩
  · exact (Prog.runs_pure.1 h₂).2
  rcases Prog.runs_bind.1 h₂ with ⟨r, s₂, h₃, h₄⟩ | ⟨m, h₃, -⟩
  · rcases cacheInfo_runs h₃ with ⟨n, m, hr, -⟩ | ⟨err, hr, rfl⟩ <;>
      obtain rfl := Exit.returned.inj hr
    · exact absurd (Prog.runs_pure.1 h₄).1 he
    · exact (Prog.runs_pure.1 h₄).2
  · rcases cacheInfo_runs h₃ with ⟨_, _, ⟨⟩, -⟩ | ⟨_, ⟨⟩, -⟩

/-- The runs of an item of a collateral walk are runs of its chain; the item fails when the
chain returns no row. -/
theorem refreshItem_runs {lazyCache : Prog (Except String β)} {context : String} {s s' : Store}
    {e : Exit (Except String Unit)} (h : (refreshItem lazyCache context).Runs s e s') :
    ∃ e', lazyCache.Runs s e' s' ∧ (e ≠ .returned (.ok ()) → ∀ v, e' ≠ .returned (.ok v)) := by
  rcases Prog.runs_bind.1 h with ⟨r, s₁, h₁, h₂⟩ | ⟨m, h₁, rfl⟩
  · rcases r with err | v <;> obtain ⟨rfl, rfl⟩ := Prog.runs_pure.1 h₂
    exacts [⟨_, h₁, fun _ _ => nofun⟩, ⟨_, h₁, fun he => absurd rfl he⟩]
  · exact ⟨_, h₁, fun _ _ => nofun⟩

/-- A collateral chain in `CacheRefresh` mode changes only the row under the key it fetched,
and nothing when it returns no row. -/
theorem fetchThenCache_refresh_changedOnly {t : Table} {req : PcsRequest}
    {statusError contentError chainHeader k : String} {build : String → String → t.Row}
    (hk : ∀ chain body, t.key (build chain body) = k) {s s' : Store}
    {e : Exit (Except String t.Row)}
    (h : (fetchThenCache (fetchCollateral (upstream req) statusError contentError chainHeader build)
      fun row => cacheInfo t row .cacheRefresh).Runs s e s') :
    s.ChangedOnly t [k] s' ∧ ((∀ v, e ≠ .returned (.ok v)) → s' = s) := by
  rcases Prog.runs_bind_ok h fun _ => rfl with ⟨a, s₁, h₁, h₂⟩ | ⟨⟨_, h₁⟩, -⟩
  · obtain ⟨hs₁, -⟩ := fetchCollateral_runs.1 h₁
    subst hs₁
    obtain ⟨_, _, -, -, -, rfl⟩ := fetchCollateral_returns h₁
    refine ⟨hk _ _ ▸ cacheInfo_refresh_changedOnly h₂, fun he => ?_⟩
    rcases cacheInfo_runs h₂ with ⟨n, m, rfl, -⟩ | ⟨_, -, rfl⟩
    exacts [absurd rfl (he _), rfl]
  · rw [(fetchCollateral_runs.1 h₁).1]
    exact ⟨.refl _ _ _, fun _ => rfl⟩

theorem getLazyCachePckCrl_changedOnly {ca : String} {s s' : Store}
    {e : Exit (Except String PckCrl)} (h : (getLazyCachePckCrl ca .cacheRefresh).Runs s e s') :
    s.ChangedOnly .pckCrl [ca] s' ∧ ((∀ v, e ≠ .returned (.ok v)) → s' = s) :=
  fetchThenCache_refresh_changedOnly (by intros; rfl) h

theorem getLazyCacheFmspcTcbInfo_changedOnly {fmspc : String} {s s' : Store}
    {e : Exit (Except String FmspcTcbInfo)}
    (h : (getLazyCacheFmspcTcbInfo fmspc .cacheRefresh).Runs s e s') :
    s.ChangedOnly .fmspcTcbInfo [fmspc] s' ∧ ((∀ v, e ≠ .returned (.ok v)) → s' = s) :=
  fetchThenCache_refresh_changedOnly (by intros; rfl) h

theorem refreshPckCrl_changedOnly {pckCrl : PckCrl} {s s' : Store}
    {e : Exit (Except String Unit)} (h : (refreshPckCrl pckCrl).Runs s e s') :
    s.ChangedOnly .pckCrl [pckCrl.ca] s' ∧ (e ≠ .returned (.ok ()) → s' = s) := by
  obtain ⟨e', h', he⟩ := refreshItem_runs h
  have hc := getLazyCachePckCrl_changedOnly h'
  exact ⟨hc.1, fun hne => hc.2 (he hne)⟩

theorem refreshTcbInfo_changedOnly {tcbInfo : FmspcTcbInfo} {s s' : Store}
    {e : Exit (Except String Unit)} (h : (refreshTcbInfo tcbInfo).Runs s e s') :
    s.ChangedOnly .fmspcTcbInfo [tcbInfo.fmspc] s' ∧ (e ≠ .returned (.ok ()) → s' = s) := by
  obtain ⟨e', h', he⟩ := refreshItem_runs h
  have hc := getLazyCacheFmspcTcbInfo_changedOnly h'
  exact ⟨hc.1, fun hne => hc.2 (he hne)⟩

/-! ## What a walk leaves alone -/

/-- In a table with unique keys, a row outside a prefix has a key outside the prefix's keys. -/
theorem key_not_mem_of_not_mem_done {α : Type} {key : α → String} {rows done : List α}
    (hnd : (rows.map key).Nodup) (hp : done <+: rows) {r : α} (hr : r ∈ rows) (hn : r ∉ done) :
    key r ∉ done.map key := by
  obtain ⟨rest, rfl⟩ := hp
  have hrest : r ∈ rest := (List.mem_append.1 hr).resolve_left hn
  rw [List.map_append, List.nodup_append] at hnd
  exact fun hk => hnd.2.2 hk (List.mem_map_of_mem _ hrest)

/-- A repository of one platform with its certificate, one CRL and one TCB info: the start of
the concrete refreshes. -/
def sampleCachedStore : Store :=
  { Store.empty with
    platforms := [samplePlatform]
    pckCerts := [⟨samplePlatform.qeID, "0000", "f", ["cert"], [sampleTcbm], 0, 0, 0, 0⟩]
    pckCrls := [⟨"processor", "crl", "", 0, 0⟩]
    fmspcTcbInfos := [⟨"f", "tcb", "", 0, 0⟩] }

theorem sampleCachedStore_keysUnique : sampleCachedStore.KeysUnique := fun t => by
  cases t <;> decide

/-- The certificate walk refreshes, one after the other, the platforms of a prefix `done` of the
rows it read; when it fails, it read none, or the refresh of the next platform failed with its
answer. The certificate of every platform past `done` is still there as it was, and no other
table changed. -/
theorem refreshPckCerts_frame {lib : Lib} {s s' : Store} {e : Exit (Except String Unit)}
    (hs : s.KeysUnique) (h : (refreshPckCerts lib).Runs s e s') :
    ∃ done,
      (e = .returned (.error "no platform value records are found in db, cannot perform refresh") ∧
          s' = s ∧ done = [] ∨
        WalkedPrefix (refreshPckCert lib) s.platforms done s s' e) ∧
      (∀ p ∈ s.platforms, p ∉ done → ∀ c ∈ s.pckCerts, c.qeID = p.qeID → c ∈ s'.pckCerts) ∧
      (∀ t, t ≠ .pckCert → s'.rows t = s.rows t) := by
  obtain ⟨done, hd, hp, hother, hrows⟩ := refreshAll_walked Platform.qeID
    (fun _ _ _ _ => refreshPckCert_changedOnly) (fun _ _ _ _ => refreshPckCert_fails_unchanged) h
  refine ⟨done, hd, fun p hp' hn c hc hcq => hrows c hc ?_, hother⟩
  show c.qeID ∉ _
  rw [hcq]
  exact key_not_mem_of_not_mem_done (hs .platform) hp hp' hn

/-- PCS failing at the only platform: the walk stops there, and its certificate stays. -/
theorem refreshPckCerts_frame_on_pcs_error :
    ∃ e s', (refreshPckCerts (sampleLib sampleTcbm)).Runs sampleCachedStore e s' ∧
      ∃ done,
        (e = .returned
            (.error "no platform value records are found in db, cannot perform refresh") ∧
            s' = sampleCachedStore ∧ done = [] ∨
          WalkedPrefix (refreshPckCert (sampleLib sampleTcbm)) sampleCachedStore.platforms done
            sampleCachedStore s' e) ∧
        (∀ p ∈ sampleCachedStore.platforms, p ∉ done →
          ∀ c ∈ sampleCachedStore.pckCerts, c.qeID = p.qeID → c ∈ s'.pckCerts) ∧
        (∀ t, t ≠ .pckCert → s'.rows t = sampleCachedStore.rows t) := by
  obtain ⟨e, s', hrun⟩ : ∃ e s', (refreshPckCerts (sampleLib sampleTcbm)).runWith 0
      [.error "connection reset"] sampleCachedStore = some (e, s') := ⟨_, _, rfl⟩
  have h := Prog.runWith_runs hrun
  exact ⟨e, s', h, refreshPckCerts_frame sampleCachedStore_keysUnique h⟩

/-- The CRL walk refreshes, one after the other, a prefix `done` of the CRL rows it read; when it
fails, it read none, or the refresh of the next CRL failed with its answer. Every CRL row past
`done` is still there as it was, and no other table changed. -/
theorem refreshAllPckCrl_frame {s s' : Store} {e : Exit (Except String Unit)}
    (hs : s.KeysUnique) (h : refreshAllPckCrl.Runs s e s') :
    ∃ done,
      (e = .returned (.error "no pck crl record found in db, cannot perform refresh operation") ∧
          s' = s ∧ done = [] ∨
        WalkedPrefix refreshPckCrl s.pckCrls done s s' e) ∧
      (∀ r ∈ s.pckCrls, r ∉ done → r ∈ s'.pckCrls) ∧ (∀ t, t ≠ .pckCrl → s'.rows t = s.rows t) := by
  obtain ⟨done, hd, hp, hother, hrows⟩ := refreshAll_walked PckCrl.ca
    (fun _ _ _ _ h => (refreshPckCrl_changedOnly h).1)
    (fun _ _ _ _ h => (refreshPckCrl_changedOnly h).2) h
  exact ⟨done, hd, fun r hr hn => hrows r hr (key_not_mem_of_not_mem_done (hs .pckCrl) hp hr hn),
    hother⟩

/-- PCS failing at the only CRL: the walk stops there, and the CRL stays. -/
theorem refreshAllPckCrl_frame_on_pcs_error :
    ∃ e s', refreshAllPckCrl.Runs sampleCachedStore e s' ∧
      ∃ done,
        (e = .returned
            (.error "no pck crl record found in db, cannot perform refresh operation") ∧
            s' = sampleCachedStore ∧ done = [] ∨
          WalkedPrefix refreshPckCrl sampleCachedStore.pckCrls done sampleCachedStore s' e) ∧
        (∀ r ∈ sampleCachedStore.pckCrls, r ∉ done → r ∈ s'.pckCrls) ∧
        (∀ t, t ≠ .pckCrl → s'.rows t = sampleCachedStore.rows t) := by
  obtain ⟨e, s', hrun⟩ : ∃ e s', refreshAllPckCrl.runWith 0 [.error "connection reset"]
      sampleCachedStore = some (e, s') := ⟨_, _, rfl⟩
  have h := Prog.runWith_runs hrun
  exact ⟨e, s', h, refreshAllPckCrl_frame sampleCachedStore_keysUnique h⟩

/-- The TCB info walk refreshes, one after the other, a prefix `done` of the TCB info rows it
read; when it fails, it read none, or the refresh of the next TCB info failed with its answer.
Every TCB info row past `done` is still there as it was, and no other table changed. -/
theorem refreshAllTcbInfo_frame {s s' : Store} {e : Exit (Except String Unit)}
    (hs : s.KeysUnique) (h : refreshAllTcbInfo.Runs s e s') :
    ∃ done,
      (e = .returned (.error "no tcbinfo record found in db, cannot perform refresh operation") ∧
          s' = s ∧ done = [] ∨
        WalkedPrefix refreshTcbInfo s.fmspcTcbInfos done s s' e) ∧
      (∀ r ∈ s.fmspcTcbInfos, r ∉ done → r ∈ s'.fmspcTcbInfos) ∧
      (∀ t, t ≠ .fmspcTcbInfo → s'.rows t = s.rows t) := by
  obtain ⟨done, hd, hp, hother, hrows⟩ := refreshAll_walked FmspcTcbInfo.fmspc
    (fun _ _ _ _ h => (refreshTcbInfo_changedOnly h).1)
    (fun _ _ _ _ h => (refreshTcbInfo_changedOnly h).2) h
  exact ⟨done, hd,
    fun r hr hn => hrows r hr (key_not_mem_of_not_mem_done (hs .fmspcTcbInfo) hp hr hn), hother⟩

/-- PCS failing at the only TCB info: the walk stops there, and the TCB info stays. -/
theorem refreshAllTcbInfo_frame_on_pcs_error :
    ∃ e s', refreshAllTcbInfo.Runs sampleCachedStore e s' ∧
      ∃ done,
        (e = .returned
            (.error "no tcbinfo record found in db, cannot perform refresh operation") ∧
            s' = sampleCachedStore ∧ done = [] ∨
          WalkedPrefix refreshTcbInfo sampleCachedStore.fmspcTcbInfos done sampleCachedStore s' e) ∧
        (∀ r ∈ sampleCachedStore.fmspcTcbInfos, r ∉ done → r ∈ s'.fmspcTcbInfos) ∧
        (∀ t, t ≠ .fmspcTcbInfo → s'.rows t = sampleCachedStore.rows t) := by
  obtain ⟨e, s', hrun⟩ : ∃ e s', refreshAllTcbInfo.runWith 0 [.error "connection reset"]
      sampleCachedStore = some (e, s') := ⟨_, _, rfl⟩
  have h := Prog.runWith_runs hrun
  exact ⟨e, s', h, refreshAllTcbInfo_frame sampleCachedStore_keysUnique h⟩

/-! ## A refresh writes a zero `CreatedTime` -/

set_option maxRecDepth 20000 in
/-- A push stamps the `CreatedTime` of the CRL, the TCB info and the QE identity with the clock;
the next collateral refresh tick writes each back as zero, because `Update` saves every column of
the row the refresh fetched. -/
theorem refreshNonPCKCollaterals_resets_createdTime :
    ∃ s₁ s₂,
      (pushPlatformInfo (sampleLib sampleTcbm) 1 "body").runWith 5
        [.ok (samplePckCerts "f"), .ok (okResponse [] "tcb"), .ok (okResponse [] "crl"),
          .ok (okResponse [] "qe")] Store.empty =
        some (.returned (.written statusCreated ⟨"Created", "platform data pushed to scs"⟩), s₁) ∧
      (refreshPlatformInfoTimer (sampleLib sampleTcbm) typeRefreshTcb).runWith 7
        [.ok (okResponse [] "crl"), .ok (okResponse [] "tcb"), .ok (okResponse [] "qe")] s₁ =
        some (.returned (.ok ()), s₂) ∧
      s₁.pckCrls.map (·.createdTime) = [5] ∧ s₂.pckCrls.map (·.createdTime) = [0] ∧
      s₁.fmspcTcbInfos.map (·.createdTime) = [5] ∧ s₂.fmspcTcbInfos.map (·.createdTime) = [0] ∧
      s₁.qeIdentities.map (·.createdTime) = [5] ∧ s₂.qeIdentities.map (·.createdTime) = [0] :=
  ⟨_, _, rfl, rfl, rfl, rfl, rfl, rfl, rfl, rfl⟩

end SgxCachingService
