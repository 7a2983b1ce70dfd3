/-
  SGX caching service: the status query of a cached platform (§4.4, §4.6).

  `getTcbStatus` reads three rows for a QE-ID: the `PckCert` row, the `Platform` row, and the
  `FmspcTcbInfo` row of the platform's FMSPC; a `qeid` that fails its check is a 400, and a
  missing row a 404. The writers keep all three reachable from every `Platform` row: a push
  writes the platform after the certificate and the TCB info, under a QE-ID that passed the
  same check, and no request deletes a row (`Store.Backed`, `Store.QeIDsIn`). It then reads
  the TCBM at the certificate's `CertIndex`, which the writers keep within its TCBMs when the
  DCAP library keeps its contract (`RowCondition.certIndexInRange`).

  Proved:
  * `interleaved_status_query_finds`: at every point of every interleaving of concurrent
    requests from a store where the references hold and every QE-ID passes the check, the
    status query of any cached platform, answered by the database, answers neither 400 nor 404:
    it answers 200, or 500 on a TCBM or a TCB info it cannot read, or panics on a TCBM too short.
  * `interleaved_status_query_panics_only_on_tcbm`: at every point of every interleaving from a
    store where every certificate's index is in range, under the library's contract, every
    status query answers, and panics only where `splitTcbm` does, on the decoded TCBM at the
    certificate's index: never on the index itself.
-/
import SgxCachingService.Provenance

namespace SgxCachingService

theorem Table.mem_of_find {t : Table} {rows : List t.Row} {k : String} {r : t.Row}
    (h : t.find rows k = some r) : r ∈ rows :=
  (List.mem_filter.1 (Table.first_mem h)).1

theorem Store.HasKey.find_isSome {s : Store} {t : Table} {k : String} (h : s.HasKey t k) :
    (t.find (s.rows t) k).isSome :=
  let ⟨r, hr, hk⟩ := Store.hasKey_iff.1 h
  Table.find_isSome.2 ⟨r, hr, .inr hk⟩

/-- With a valid `qeid` and its certificate, its platform and that platform's TCB info in the
store, the status query answered by the database gets past every lookup: it answers 200, or
500 on a TCBM or a TCB info it cannot read, or panics. -/
theorem getTcbStatus_found {lib : Lib} {clock : Nat} {replies : List (Except String HttpResponse)}
    {s : Store} {q : String} {pckCert : PckCert} {platform : Platform} {fmspcTcb : FmspcTcbInfo}
    (hq : validateInputString qeIDKey q = .returned true)
    (hpc : Table.find .pckCert s.pckCerts q = some pckCert)
    (hpl : Table.find .platform s.platforms q = some platform)
    (hft : Table.find .fmspcTcbInfo s.fmspcTcbInfos platform.fmspc = some fmspcTcb) :
    ∃ e, (getTcbStatus lib [("qeid", q)]).runWith clock replies s = some (e, s) ∧
      ∀ m code, e = .returned (.resourceError m code) → code = statusInternalServerError := by
  simp [getTcbStatus, queryGet, hq, Prog.ofExit, query, Prog.runWith, Call.answer, Call.exec,
    Store.rows, hpc, hpl, hft]
  split
  · exact ⟨_, rfl, nofun⟩
  split
  · exact ⟨_, rfl, fun _ _ h => by cases h; rfl⟩
  split
  · simp only [Prog.ret_bind]
    split
    · exact ⟨_, rfl, fun _ _ h => by cases h; rfl⟩
    · exact ⟨_, rfl, nofun⟩
  · exact ⟨_, rfl, nofun⟩

/-- On a store where every certificate's index is in range, the status query answered by the
database answers, and panics only in `splitTcbm`, on the decoded TCBM at the index of the
certificate it read. -/
theorem getTcbStatus_panics_only_on_tcbm {lib : Lib} {clock : Nat}
    {replies : List (Except String HttpResponse)} {s : Store}
    (hs : ∀ c ∈ s.pckCerts, c.certIndex.toNat < c.tcbms.length)
    (urlQuery : List (String × String)) :
    ∃ e, (getTcbStatus lib urlQuery).runWith clock replies s = some (e, s) ∧
      ∀ m, e = .panicked m → ∃ pckCert tcbmHex tcbm,
        Table.find .pckCert s.pckCerts (queryGet urlQuery "qeid") = some pckCert ∧
        pckCert.tcbms[pckCert.certIndex.toNat]? = some tcbmHex ∧
        decodeString tcbmHex = .ok tcbm ∧ splitTcbm tcbm tcbmHex.length = .panicked m := by
  have hq := validateInputString_of_lookup (show regExMap.lookup qeIDKey = some (.hex 32) from rfl)
    (queryGet urlQuery "qeid")
  by_cases h₀ : urlQuery.isEmpty = true; swap
  by_cases hm : (Pattern.hex 32).matches (queryGet urlQuery "qeid") = true
  rcases hpc : Table.find .pckCert s.pckCerts (queryGet urlQuery "qeid") with _ | pckCert; swap
  rcases hpl : Table.find .platform s.platforms (queryGet urlQuery "qeid") with _ | platform; swap
  rcases hft : Table.find .fmspcTcbInfo s.fmspcTcbInfos platform.fmspc with _ | fmspcTcb; swap
  have hlt := hs _ (Table.mem_of_find hpc)
  have hidx := List.getElem?_eq_getElem hlt
  rcases hdec : decodeString pckCert.tcbms[pckCert.certIndex.toNat] with _ | tcbm; swap
  rcases hsp : splitTcbm tcbm pckCert.tcbms[pckCert.certIndex.toNat].length with _ | m
  rcases hj : lib.unmarshalTcbInfo fmspcTcb.tcbInfo with _ | _
  all_goals simp [getTcbStatus, Prog.ofExit, query, Prog.runWith, Call.answer, Call.exec,
    Store.rows, *]

/-- Every row the status query reads for a cached platform is there when the references hold. -/
theorem Store.Backed.status_rows {s : Store} (hs : s.Backed) {p : Platform} (hp : p ∈ s.platforms) :
    ∃ pckCert platform fmspcTcb, Table.find .pckCert s.pckCerts p.qeID = some pckCert ∧
      Table.find .platform s.platforms p.qeID = some platform ∧
      Table.find .fmspcTcbInfo s.fmspcTcbInfos platform.fmspc = some fmspcTcb := by
  obtain ⟨pckCert, hpc⟩ := Option.isSome_iff_exists.1 (hs.1 p hp).1.find_isSome
  obtain ⟨platform, hpl⟩ :=
    Option.isSome_iff_exists.1
      (show s.HasKey .platform p.qeID from List.mem_map_of_mem _ hp).find_isSome
  obtain ⟨fmspcTcb, hft⟩ :=
    Option.isSome_iff_exists.1 (hs.1 platform (Table.mem_of_find hpl)).2.find_isSome
  exact ⟨pckCert, platform, fmspcTcb, hpc, hpl, hft⟩

/-- At every point of every interleaving of concurrent requests, from a store where the
references hold and every cached QE-ID passes the `qeid` check, the status query of any cached
platform, run then and answered by the database, finds its rows: it answers neither 400 nor
404. -/
theorem interleaved_status_query_finds {lib : Lib} {reqs : List Request} {s : Store} {σ : Server}
    {tr : List (Nat × Option PcsRequest)} (hs : s.Backed)
    (hv : s.QeIDsIn fun q => validateInputString qeIDKey q = .returned true)
    (h : Server.Steps (Server.ofRequests lib reqs s) tr σ) {p : Platform}
    (hp : p ∈ σ.store.platforms) (clock : Nat) (replies : List (Except String HttpResponse)) :
    ∃ e, (getTcbStatus lib [("qeid", p.qeID)]).runWith clock replies σ.store = some (e, σ.store) ∧
      ∀ m code, e = .returned (.resourceError m code) → code = statusInternalServerError := by
  have hb := (h.safe (Server.ofRequests_allSafe lib reqs hs)).1.1
  have hv' := (h.safe (Server.ofRequests_allSafe_qeIDsIn lib reqs (fun _ _ pi _ _ hc =>
    validateAll_eq_true hc (qeIDKey, pi.qeID) (by simp [PlatformInfo.checks])) hv)).1.1
  obtain ⟨_, _, _, hpc, hpl, hft⟩ := hb.status_rows hp
  exact getTcbStatus_found (hv' .platform p hp (.inl rfl)) hpc hpl hft

/-- The push of `samplePlatform` from the empty store, as the only request: the platform it
cached is found. -/
theorem interleaved_status_query_finds_after_push :
    ∃ σ tr, Server.Steps (Server.ofRequests (sampleLib sampleTcbm) [.push 1 "body"] Store.empty)
        tr σ ∧ σ.store.platforms ≠ [] ∧
      ∀ p ∈ σ.store.platforms, ∃ e,
        (getTcbStatus (sampleLib sampleTcbm) [("qeid", p.qeID)]).runWith 6 [] σ.store =
          some (e, σ.store) ∧
        ∀ m code, e = .returned (.resourceError m code) → code = statusInternalServerError := by
  obtain ⟨σ, tr, hs, hne⟩ := samplePush_steps
  exact ⟨σ, tr, hs, hne, fun p hp => interleaved_status_query_finds Store.backed_empty
    ⟨fun _ h => (nomatch h), fun _ h => (nomatch h)⟩ hs hp 6 []⟩

/-- At every point of every interleaving of concurrent requests, from a store where every
cached certificate's `CertIndex` names one of its TCBMs, and when the DCAP library keeps its
contract, every status query, run then and answered by the database, answers, and panics only
where `splitTcbm` does on the decoded TCBM at the index of the certificate it read. -/
theorem interleaved_status_query_panics_only_on_tcbm {lib : Lib} (hlib : lib.SelectorContract)
    {reqs : List Request} {s : Store} {σ : Server} {tr : List (Nat × Option PcsRequest)}
    (hs : ∀ c ∈ s.pckCerts, c.certIndex.toNat < c.tcbms.length)
    (h : Server.Steps (Server.ofRequests lib reqs s) tr σ) (urlQuery : List (String × String))
    (clock : Nat) (replies : List (Except String HttpResponse)) :
    ∃ e, (getTcbStatus lib urlQuery).runWith clock replies σ.store = some (e, σ.store) ∧
      ∀ m, e = .panicked m → ∃ pckCert tcbmHex tcbm,
        Table.find .pckCert σ.store.pckCerts (queryGet urlQuery "qeid") = some pckCert ∧
        pckCert.tcbms[pckCert.certIndex.toNat]? = some tcbmHex ∧
        decodeString tcbmHex = .ok tcbm ∧ splitTcbm tcbm tcbmHex.length = .panicked m :=
  getTcbStatus_panics_only_on_tcbm (Store.rowsIn_certIndexInRange.1
    (h.safe (Server.ofRequests_allSafe_certIndex hlib reqs hs)).1.1) urlQuery

/-- The push of `samplePlatform` from the empty store, as the only request, under a library
that keeps its contract: no status query then panics on the certificate index. -/
theorem interleaved_status_query_panics_only_on_tcbm_after_push :
    (sampleLib sampleTcbm).SelectorContract ∧ ∃ σ tr,
      Server.Steps (Server.ofRequests (sampleLib sampleTcbm) [.push 1 "body"] Store.empty) tr σ ∧
      σ.store.platforms ≠ [] ∧ ∀ urlQuery, ∃ e,
        (getTcbStatus (sampleLib sampleTcbm) urlQuery).runWith 6 [] σ.store = some (e, σ.store) ∧
        ∀ m, e = .panicked m → ∃ pckCert tcbmHex tcbm,
          Table.find .pckCert σ.store.pckCerts (queryGet urlQuery "qeid") = some pckCert ∧
          pckCert.tcbms[pckCert.certIndex.toNat]? = some tcbmHex ∧
          decodeString tcbmHex = .ok tcbm ∧ splitTcbm tcbm tcbmHex.length = .panicked m := by
  obtain ⟨σ, tr, hs, hne⟩ := samplePush_steps
  have h₀ : ∀ c ∈ Store.empty.pckCerts, c.certIndex.toNat < c.tcbms.length := fun _ h => nomatch h
  exact ⟨Lib.fixed_selectorContract _ _ _ _, σ, tr, hs, hne, fun urlQuery =>
    interleaved_status_query_panics_only_on_tcbm (Lib.fixed_selectorContract _ _ _ _) h₀ hs
      urlQuery 6 []⟩

end SgxCachingService
