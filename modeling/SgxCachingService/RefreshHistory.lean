/-
  SGX caching service: what the refreshes do over histories (§3, §4.5, §4.6).

  A push stores the issuer chain of a `/pckcerts` response as a `PckCertChain` row, whose id the
  repository assigns (one more than the number of chains, so never zero), and writes that id
  into the certificate's `PckCertChainID`. The certificate refresh does not: it caches the record
  `fetchPckCertInfo` built, whose `PckCertChainID` nothing set, with an `Update` that writes
  every column, and the foreign key of §6.4 refuses a row naming chain 0. Over every history the
  certificate refresh therefore fails at its first platform and changes nothing, and the refresh
  handler answers 404 without reaching the collateral walks.

  The collateral refresh walks the CRLs, then the TCB infos, then the QE identity, and stops at
  the first walk that fails; a walk over an empty table fails.

  Proved:
  * `certificate_refresh_always_fails`: over every history, a certificate refresh, by a timer
    tick or by the refresh handler, fails and changes nothing, and the handler answers 404.
  * `refresh_answers_not_found_without_crl`: on any store with no CRL row the refresh handler
    answers 404, "could not find platform info in database", whatever platforms are cached.
-/
import SgxCachingService.History

namespace SgxCachingService

/-! ## Invariants of every call -/

/-- An invariant that every call keeps is kept by every run. -/
theorem Prog.preserves_of_outcome {I : Store → Prop}
    (hc : ∀ {β : Type} {c : Call β} {s : Store} {b : β} {s' : Store}, c.Outcome s b s' → I s → I s')
    (p : Prog α) : p.Preserves I := fun _ _ _ hr => by
  induction hr with
  | ret => exact id
  | panic => exact id
  | call ho _ ih => exact fun hs => ih (hc ho hs)

/-- An invariant that every call keeps and the empty store has holds over every history. -/
theorem Reachable.of_outcome {I : Store → Prop} {lib : Lib} {s : Store} (h : Reachable lib s)
    (h0 : I Store.empty)
    (hc : ∀ {β : Type} {c : Call β} {s : Store} {b : β} {s' : Store},
      c.Outcome s b s' → I s → I s') :
    I s := by
  induction h with
  | empty => exact h0
  | step _ req hreq ih =>
    cases req <;> obtain ⟨e, hr⟩ := hreq <;> exact Prog.preserves_of_outcome hc _ _ _ _ hr ih

/-! ## Chain ids are never zero -/

/-- Every `PckCertChain` row has a positive id. -/
def Store.ChainIdsPositive (s : Store) : Prop := ∀ ch ∈ s.pckCertChains, 0 < ch.id

theorem Call.exec_chainIdsPositive {c : Call β} {s s' : Store} {b : β}
    (h : c.exec s = some (b, s')) (hs : s.ChainIdsPositive) : s'.ChainIdsPositive := by
  cases c with
  | pcs => cases h
  | now => cases h
  | retrieve => cases h; exact hs
  | retrieveAll => cases h; exact hs
  | create t r =>
    simp only [Call.exec] at h
    split_ifs at h <;> cases h <;> simpa [Store.ChainIdsPositive] using hs
  | update t r =>
    simp only [Call.exec] at h
    split_ifs at h <;> cases h <;> simpa [Store.ChainIdsPositive] using hs
  | createChain =>
    cases h
    intro ch hch
    rcases List.mem_append.1 hch with hch | hch
    · exact hs ch hch
    · rw [List.mem_singleton.1 hch]
      exact Nat.succ_pos _

theorem Call.Outcome.chainIdsPositive {c : Call β} {s s' : Store} {b : β} (h : c.Outcome s b s')
    (hs : s.ChainIdsPositive) : s'.ChainIdsPositive := by
  rcases h.eq_or_exec with rfl | hx
  exacts [hs, Call.exec_chainIdsPositive hx hs]

/-- Over every history every chain id is positive. -/
theorem Reachable.chainIdsPositive {lib : Lib} {s : Store} (h : Reachable lib s) :
    s.ChainIdsPositive :=
  h.of_outcome (fun _ h => nomatch h) Call.Outcome.chainIdsPositive

/-! ## The certificate refresh cannot write -/

/-- A refresh of one platform returns success only on a store with a chain of id 0: it caches
the record `fetchPckCertInfo` built, whose `PckCertChainID` nothing set, and the foreign key
refuses an `Update` that names a missing chain. -/
theorem refreshPckCert_ok_chain_zero {lib : Lib} {platform : Platform} {s s' : Store}
    (h : (refreshPckCert lib platform).Runs s (.returned (.ok ())) s') :
    ∃ ch ∈ s.pckCertChains, ch.id = 0 := by
  rcases Prog.runs_bind.1 h with ⟨r, s₁, h₁, h₂⟩ | ⟨m, -, ⟨⟩⟩
  obtain ⟨rfl, hr⟩ := fetchPckCertInfo_runs h₁
  rcases r with err | ⟨pci, ft, chain, ca⟩
  · cases (Prog.runs_pure.1 h₂).1
  obtain ⟨resp, pckCertInfo, certIndex, hread, -, -, rfl⟩ := hr _ rfl
  obtain ⟨-, -, ⟨_, _, -, -, rfl⟩, -⟩ := readPckCerts_eq_ok.1 hread
  rcases Prog.runs_bind.1 h₂ with ⟨r, s₂, h₃, h₄⟩ | ⟨m, -, ⟨⟩⟩
  rcases r with err | c
  · cases (Prog.runs_pure.1 h₄).1
  rcases cacheInfo_runs h₃ with ⟨n, m, -, hfk, -⟩ | ⟨err, ⟨⟩, -⟩
  simpa [Table.refsIn, Table.stamped, Table.stampUpdated] using hfk

/-- A walk whose first item cannot return success from `s` walked nothing. -/
theorem Walked.nil_of_first_fails {item : α → Prog (Except String Unit)} {done : List α}
    {s s' : Store} (hfirst : ∀ x s₁, ¬(item x).Runs s (.returned (.ok ())) s₁)
    (h : Walked item done s s') : done = [] ∧ s' = s := by
  cases h with
  | nil => exact ⟨rfl, rfl⟩
  | cons hx _ => exact absurd hx (hfirst _ _)

/-- On a store whose chain ids are all positive, a certificate refresh fails and changes
nothing: it reads no platform, or the refresh of its first platform fails. -/
theorem refreshPckCerts_fails {lib : Lib} {s s' : Store} {e : Exit (Except String Unit)}
    (hs : s.ChainIdsPositive) (h : (refreshPckCerts lib).Runs s e s') :
    e ≠ .returned (.ok ()) ∧ s' = s := by
  rcases refreshAll_runs h with ⟨rfl, rfl⟩ | ⟨hne, hw⟩
  · exact ⟨nofun, rfl⟩
  have hfirst : ∀ x s₁, ¬(refreshPckCert lib x).Runs s (.returned (.ok ())) s₁ := fun _ _ hx => by
    obtain ⟨ch, hch, h0⟩ := refreshPckCert_ok_chain_zero hx
    exact (hs ch hch).ne' h0
  obtain ⟨done, s₁, hd, hdone⟩ := refreshWalk_runs hw
  obtain ⟨rfl, rfl⟩ := hd.nil_of_first_fails hfirst
  rcases hdone with ⟨h0, -, -⟩ | ⟨x, rest, -, hx, he⟩
  · exact absurd h0.symm hne
  · exact ⟨he, refreshPckCert_fails_unchanged hx he⟩

/-- Over every history the certificate refresh fails and changes nothing, from a timer tick or
from the refresh handler; so the refresh handler changes nothing and answers 404, "could not
find platform info in database", when it does not panic: it never reaches the collateral
walks. -/
theorem certificate_refresh_always_fails {lib : Lib} {s : Store} (hs : Reachable lib s) :
    (∀ e s', (refreshPlatformInfoTimer lib typeRefreshCert).Runs s e s' →
      e ≠ .returned (.ok ()) ∧ s' = s) ∧
    ∀ e s', (refreshPlatformInfo lib).Runs s e s' → s' = s ∧
      ∀ reply, e = .returned reply → reply =
        .written statusNotFound ⟨"Failure", "could not find platform info in database"⟩ := by
  have hpos := hs.chainIdsPositive
  refine ⟨fun e s' h => refreshPckCerts_fails hpos (by simpa [refreshPlatformInfoTimer] using h),
    fun e s' h => ?_⟩
  rcases Prog.runs_bind.1 h with ⟨r, s₁, h₁, h₂⟩ | ⟨m, h₁, rfl⟩
  · obtain ⟨hr, rfl⟩ := refreshPckCerts_fails hpos h₁
    rcases r with err | ⟨⟩
    · obtain ⟨rfl, rfl⟩ := Prog.runs_pure.1 h₂
      exact ⟨rfl, fun _ h => (Exit.returned.inj h).symm⟩
    · exact absurd rfl hr
  · exact ⟨(refreshPckCerts_fails hpos h₁).2, nofun⟩

set_option maxRecDepth 20000 in
/-- After a push that cached a platform, with the chain it created numbered 1, the certificate
refresh fails and the refresh handler answers 404, changing nothing. -/
theorem certificate_refresh_always_fails_after_push :
    ∃ s, Reachable (sampleLib sampleTcbm) s ∧ s.platforms ≠ [] ∧
      s.pckCertChains.map (·.id) = [1] ∧
      (∀ e s', (refreshPlatformInfoTimer (sampleLib sampleTcbm) typeRefreshCert).Runs s e s' →
        e ≠ .returned (.ok ()) ∧ s' = s) ∧
      ∀ e s', (refreshPlatformInfo (sampleLib sampleTcbm)).Runs s e s' → s' = s ∧
        ∀ reply, e = .returned reply → reply =
          .written statusNotFound ⟨"Failure", "could not find platform info in database"⟩ := by
  obtain ⟨s, h, hl⟩ : ∃ s, (pushPlatformInfo (sampleLib sampleTcbm) 1 "body").runWith 5
        [.ok (samplePckCerts "f"), .ok (okResponse [] "tcb"), .ok (okResponse [] "crl"),
          .ok (okResponse [] "qe")] Store.empty =
        some (.returned (.written statusCreated ⟨"Created", "platform data pushed to scs"⟩), s) ∧
      s.platforms ≠ [] ∧ s.pckCertChains.map (·.id) = [1] :=
    ⟨_, rfl, nofun, rfl⟩
  have hs : Reachable (sampleLib sampleTcbm) s :=
    .step .empty (.push 1 "body") ⟨_, Prog.runWith_runs h⟩
  exact ⟨s, hs, hl.1, hl.2, certificate_refresh_always_fails hs⟩

/-! ## The TCB refresh needs a CRL -/

/-- On a store with no CRL row the collateral refresh stops at the CRL walk, which reads no row:
it fails with that walk's message and changes nothing. -/
theorem refreshNonPCKCollaterals_without_crl {s s' : Store} {e : Exit (Except String Unit)}
    (h0 : s.pckCrls = []) (h : refreshNonPCKCollaterals.Runs s e s') :
    e = .returned (.error "no pck crl record found in db, cannot perform refresh operation") ∧
      s' = s := by
  rcases Prog.runs_bind.1 h with ⟨r, s₁, h₁, h₂⟩ | ⟨m, h₁, rfl⟩
  · rcases refreshAll_runs h₁ with ⟨he, rfl⟩ | ⟨hne, -⟩
    · cases he
      exact Prog.runs_pure.1 h₂
    · exact absurd h0 hne
  · rcases refreshAll_runs h₁ with ⟨⟨⟩, -⟩ | ⟨hne, -⟩
    exact absurd h0 hne

/-- The refresh handler on a store with no CRL row answers 404, "could not find platform info in
database", whatever platforms are cached: the certificate walk writes no CRL, and the collateral
walk then fails on the empty CRL table. -/
theorem refresh_answers_not_found_without_crl {lib : Lib} {s s' : Store} {reply : Reply}
    (h0 : s.pckCrls = []) (h : (refreshPlatformInfo lib).Runs s (.returned reply) s') :
    reply = .written statusNotFound ⟨"Failure", "could not find platform info in database"⟩ := by
  rcases Prog.runs_bind.1 h with ⟨r, s₁, h₁, h₂⟩ | ⟨m, -, ⟨⟩⟩
  rcases r with err | ⟨⟩
  · exact Exit.returned.inj (Prog.runs_pure.1 h₂).1
  have h0₁ : s₁.pckCrls = [] := by
    rw [← h0]
    exact (refreshPckCerts_avoids (t := .pckCrl) (by decide) lib).rows_eq h₁
  rcases Prog.runs_bind.1 h₂ with ⟨r, s₂, h₃, h₄⟩ | ⟨m, -, ⟨⟩⟩
  obtain ⟨he, -⟩ := refreshNonPCKCollaterals_without_crl h0₁ h₃
  cases he
  exact Exit.returned.inj (Prog.runs_pure.1 h₄).1

set_option maxRecDepth 20000 in
/-- After a push that failed at the CRL, with the platform cached, the refresh handler reports a
missing platform. -/
theorem refresh_answers_not_found_after_failed_push :
    ∃ s, Reachable (sampleLib sampleTcbm) s ∧ s.platforms ≠ [] ∧ s.pckCrls = [] ∧
      ∀ reply s', (refreshPlatformInfo (sampleLib sampleTcbm)).Runs s (.returned reply) s' →
        reply =
          .written statusNotFound ⟨"Failure", "could not find platform info in database"⟩ := by
  obtain ⟨s, h₁, hl⟩ : ∃ s,
      (pushPlatformInfo (sampleLib sampleTcbm) 1 "body").runWith 5
        [.ok (samplePckCerts "f"), .ok (okResponse [] "tcb"), .error "connection reset"]
        Store.empty =
        some (.returned (.resourceError "connection reset" statusInternalServerError), s) ∧
      s.platforms ≠ [] ∧ s.pckCrls = [] :=
    ⟨_, rfl, nofun, rfl⟩
  exact ⟨s, .step .empty (.push 1 "body") ⟨_, Prog.runWith_runs h₁⟩, hl.1, hl.2,
    fun _ _ => refresh_answers_not_found_without_crl hl.2⟩

end SgxCachingService
