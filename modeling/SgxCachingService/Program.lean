/-
  SGX caching service: the repository, the upstream, and the handlers as programs.

  A handler runs Go code between suspension points (§5): a GET to PCS, a reading of the
  clock, and one repository statement. `Call β` names a suspension point and the type of its
  answer; `Prog α` is a handler's code as a tree of calls (a free monad), written with
  `do`-notation in the modules that follow. A Go runtime error is `Prog.panic`.

  `Call.exec` is how the database answers a statement (gorm over one table: `First` by key in
  the order of the primary key, `Find`, `Create`, `Save`), with the primary keys of §6.4 and the
  foreign key `Migrate` adds from `pck_certs` to `pck_cert_chains`. `Call.Outcome` is every
  answer the world may give: any PCS reply or transport error, any clock reading, the
  database's answer, or a failed statement that leaves the store as it was. `Prog.Runs` is the
  big-step semantics over those answers; `Prog.RunsOn` is the same runs with the PCS exchanges
  they made, so that a statement can name the reply a handler got; `Prog.RunsAmid` is a run
  among other threads, which may move the store on between its calls but delete no row.
  `Prog.runWith` runs a program against a fixed list of PCS replies, a fixed clock and a
  database that never fails, and `runWith_runs` says it is one of the runs.

  Proved here for every program: no run deletes a row or drops a key (`Runs.keeps`), and no
  run makes two rows of a table share a primary key (`Runs.keysUnique`).
-/
import Mathlib.Data.List.Nodup
import SgxCachingService.Go

namespace SgxCachingService

/-! ## Tables -/

/-- The six keyed tables. `PckCertChain`, whose key the database assigns, is kept apart. -/
inductive Table where
  | platform
  | platformTcb
  | pckCert
  | pckCrl
  | fmspcTcbInfo
  | qeIdentity
  deriving DecidableEq, Repr

/-- The row type of each table. -/
@[reducible] def Table.Row : Table → Type
  | .platform => Platform
  | .platformTcb => PlatformTcb
  | .pckCert => PckCert
  | .pckCrl => PckCrl
  | .fmspcTcbInfo => FmspcTcbInfo
  | .qeIdentity => QEIdentity

/-- The primary key of a row (§6.4). The type and repository of `QEIdentity` are not in the
source; the key follows the spec's singleton (§3, "one row total"): all its rows share one key,
so a second `Create` fails as a duplicate and `Save` overwrites the one row. -/
def Table.key : (t : Table) → t.Row → String
  | .platform, r => r.qeID
  | .platformTcb, r => r.qeID
  | .pckCert, r => r.qeID
  | .pckCrl, r => r.ca
  | .fmspcTcbInfo, r => r.fmspc
  | .qeIdentity, _ => ""

/-- The row with the smallest key, the earliest of equal ones: gorm's `First` orders by the
primary key (Lean's order on strings stands for the column's). -/
def Table.first (t : Table) : List t.Row → Option t.Row
  | [] => none
  | r :: rs =>
    match t.first rs with
    | some m => if t.key m < t.key r then some m else some r
    | none => some r

/-- `Where(&filter).First(&row)` on the key. gorm leaves a zero-valued field out of the filter,
so the empty key matches every row, and `First` returns the one with the smallest key. -/
def Table.find (t : Table) (rows : List t.Row) (k : String) : Option t.Row :=
  t.first (rows.filter fun r => k == "" || t.key r == k)

/-- `Save(&row)`: every column of the row with the same key is overwritten; with no such row,
gorm's `FirstOrCreate` inserts it. -/
def Table.save (t : Table) (rows : List t.Row) (r : t.Row) : List t.Row :=
  if rows.any (fun x => t.key x == t.key r) then
    rows.map fun x => if t.key x == t.key r then r else x
  else rows ++ [r]

/-- The repository: the seven tables of §6.4. -/
structure Store where
  platforms : List Platform
  platformTcbs : List PlatformTcb
  pckCertChains : List PckCertChain
  pckCerts : List PckCert
  pckCrls : List PckCrl
  fmspcTcbInfos : List FmspcTcbInfo
  qeIdentities : List QEIdentity
  deriving DecidableEq, Repr

/-- The store after schema migration. -/
def Store.empty : Store := ⟨[], [], [], [], [], [], []⟩

/-- The rows of a keyed table. -/
def Store.rows : (t : Table) → Store → List t.Row
  | .platform, s => s.platforms
  | .platformTcb, s => s.platformTcbs
  | .pckCert, s => s.pckCerts
  | .pckCrl, s => s.pckCrls
  | .fmspcTcbInfo, s => s.fmspcTcbInfos
  | .qeIdentity, s => s.qeIdentities

/-- The store with the rows of one keyed table replaced. -/
def Store.setRows : (t : Table) → Store → List t.Row → Store
  | .platform, s, rs => { s with platforms := rs }
  | .platformTcb, s, rs => { s with platformTcbs := rs }
  | .pckCert, s, rs => { s with pckCerts := rs }
  | .pckCrl, s, rs => { s with pckCrls := rs }
  | .fmspcTcbInfo, s, rs => { s with fmspcTcbInfos := rs }
  | .qeIdentity, s, rs => { s with qeIdentities := rs }

@[simp] theorem Store.rows_setRows (t : Table) (s : Store) (rs : List t.Row) :
    (s.setRows t rs).rows t = rs := by
  cases t <;> rfl

@[simp] theorem Store.rows_setRows_of_ne {t t' : Table} (h : t' ≠ t) (s : Store)
    (rs : List t.Row) : (s.setRows t rs).rows t' = s.rows t' := by
  cases t <;> cases t' <;> first | rfl | exact absurd rfl h

@[simp] theorem Store.rows_addChain (t : Table) (s : Store) (cs : List PckCertChain) :
    ({ s with pckCertChains := cs } : Store).rows t = s.rows t := by
  cases t <;> rfl

@[simp] theorem Store.pckCertChains_setRows (t : Table) (s : Store) (rs : List t.Row) :
    (s.setRows t rs).pckCertChains = s.pckCertChains := by
  cases t <;> rfl

/-! ## Suspension points -/

/-- The PCS endpoints of §4.1 with their query parameters. -/
inductive PcsRequest where
  | pckcerts (encryptedPpid pceid : String)
  | pckcertsWithManifest (platformManifest pceid : String)
  | pckcrl (ca encoding : String)
  | tcb (fmspc : String)
  | qeIdentity
  deriving DecidableEq, Repr

/-- A suspension point and the type of its answer: a GET to PCS (a response, or the
transport's error), `time.Now()`, or one repository statement (its value, or gorm's error). -/
inductive Call : Type → Type where
  | pcs (req : PcsRequest) : Call (Except String HttpResponse)
  | now : Call Nat
  | retrieve (t : Table) (key : String) : Call (Except String t.Row)
  | retrieveAll (t : Table) : Call (Except String (List t.Row))
  | create (t : Table) (row : t.Row) : Call (Except String t.Row)
  | update (t : Table) (row : t.Row) : Call (Except String Unit)
  | createChain (chain : PckCertChain) : Call (Except String PckCertChain)

/-- The foreign key `Migrate` adds (`pg_database.go`, §6.4): the `pck_cert_chain_id` of a
`PckCert` row references `pck_cert_chains(id)`, `RESTRICT` on both sides. No other keyed table
has one. -/
def Table.refsIn : (t : Table) → t.Row → List PckCertChain → Bool
  | .pckCert, r, chains => chains.any fun c => c.id == r.pckCertChainID
  | _, _, _ => true

/-- What Postgres answers a write whose row names no chain. -/
def foreignKeyViolation : String :=
  "insert or update on table \"pck_certs\" violates foreign key constraint"

/-- How the database answers a statement; `none` for the calls it does not answer. A
`Create` on a key that is present violates the primary key, which is checked first; a write of
a row naming a missing chain violates the foreign key; `PckCertChain` takes the next `ID` of
its sequence. -/
def Call.exec : Call β → Store → Option (β × Store)
  | .pcs _, _ => none
  | .now, _ => none
  | .retrieve t k, s => some (match t.find (s.rows t) k with
      | some r => .ok r
      | none => .error "record not found", s)
  | .retrieveAll t, s => some (.ok (s.rows t), s)
  | .create t r, s =>
    if (s.rows t).any (fun x => t.key x == t.key r) then
      some (.error "duplicate key value violates unique constraint", s)
    else if t.refsIn r s.pckCertChains then some (.ok r, s.setRows t (s.rows t ++ [r]))
    else some (.error foreignKeyViolation, s)
  | .update t r, s =>
    if t.refsIn r s.pckCertChains then some (.ok (), s.setRows t (t.save (s.rows t) r))
    else some (.error foreignKeyViolation, s)
  | .createChain c, s =>
    let c := { c with id := s.pckCertChains.length + 1 }
    some (.ok c, { s with pckCertChains := s.pckCertChains ++ [c] })

/-- The answer of a repository statement that fails on its own (a lost connection). -/
def Call.failure : Call β → String → Option β
  | .pcs _, _ => none
  | .now, _ => none
  | .retrieve _ _, m => some (.error m)
  | .retrieveAll _, m => some (.error m)
  | .create _ _, m => some (.error m)
  | .update _ _, m => some (.error m)
  | .createChain _, m => some (.error m)

/-- Every answer the world may give to a call, with the store after it: PCS and the clock
answer anything and leave the store alone; a statement gets the database's answer, or fails
on its own (a lost connection) and leaves the store as it was. -/
def Call.Outcome : Call β → Store → β → Store → Prop
  | .pcs _, s, _, s' => s' = s
  | .now, s, _, s' => s' = s
  | c, s, b, s' => c.exec s = some (b, s') ∨ (∃ m, c.failure m = some b) ∧ s' = s

/-- An outcome leaves the store as it was, or is the database's answer. -/
theorem Call.Outcome.eq_or_exec {c : Call β} {s s' : Store} {b : β} (h : c.Outcome s b s') :
    s' = s ∨ c.exec s = some (b, s') := by
  cases c <;> simp only [Outcome] at h <;> first | exact .inl h | exact h.elim .inr (.inl ·.2)

/-! ## Programs -/

/-- A handler's code: it returns, panics, or suspends at a call and continues with the
answer. -/
inductive Prog (α : Type) : Type 1 where
  | ret (a : α)
  | panic (msg : String)
  | call {β : Type} (c : Call β) (k : β → Prog α)

def Prog.bind : Prog α → (α → Prog β) → Prog β
  | .ret a, f => f a
  | .panic m, _ => .panic m
  | .call c k, f => .call c fun b => (k b).bind f

instance : Monad Prog where
  pure := .ret
  bind := Prog.bind

/-- One repository statement. -/
def query (c : Call (Except String β)) : Prog (Except String β) := .call c .ret

/-- A GET to PCS. -/
def upstream (req : PcsRequest) : Prog (Except String HttpResponse) := .call (.pcs req) .ret

/-- `time.Now().UTC()`. -/
def timeNow : Prog Nat := .call .now .ret

@[simp] theorem Prog.pure_bind (a : α) (f : α → Prog β) : (pure a >>= f) = f a := rfl

@[simp] theorem Prog.ret_bind (a : α) (f : α → Prog β) : (Prog.ret a >>= f) = f a := rfl

@[simp] theorem Prog.panic_bind (m : String) (f : α → Prog β) :
    (Prog.panic m >>= f) = .panic m := rfl

@[simp] theorem Prog.call_bind (c : Call γ) (k : γ → Prog α) (f : α → Prog β) :
    (Prog.call c k >>= f) = .call c fun b => k b >>= f := rfl

/-- The runs of a program: at each call the world gives one of its outcomes. -/
inductive Prog.Runs : Prog α → Store → Exit α → Store → Prop
  | ret (a : α) (s : Store) : Runs (.ret a) s (.returned a) s
  | panic (m : String) (s : Store) : Runs (.panic m) s (.panicked m) s
  | call {c : Call β} {k : β → Prog α} {s s₁ s₂ : Store} {b : β} {e : Exit α} :
      c.Outcome s b s₁ → Runs (k b) s₁ e s₂ → Runs (.call c k) s e s₂

/-- A run of `p >>= f` is a run of `p` that returns, then a run of `f`; or a run of `p` that
panics. -/
theorem Prog.runs_bind {p : Prog α} {f : α → Prog β} {s s' : Store} {e : Exit β} :
    (p >>= f).Runs s e s' ↔
      (∃ a s₁, p.Runs s (.returned a) s₁ ∧ (f a).Runs s₁ e s') ∨
        (∃ m, p.Runs s (.panicked m) s' ∧ e = .panicked m) := by
  induction p generalizing s with
  | ret a =>
    constructor
    · exact fun h => .inl ⟨a, _, .ret a _, h⟩
    · rintro (⟨a', s₁, ⟨⟩, h⟩ | ⟨m, ⟨⟩, _⟩)
      exact h
  | panic m =>
    constructor
    · rintro ⟨⟩
      exact .inr ⟨m, .panic m _, rfl⟩
    · rintro (⟨a, s₁, ⟨⟩, _⟩ | ⟨m', ⟨⟩, rfl⟩)
      exact .panic m _
  | call c k ih =>
    constructor
    · rintro (_ | _ | ⟨ho, hk⟩)
      rcases (ih _).1 hk with ⟨a, s₁, h₁, h₂⟩ | ⟨m, h₁, rfl⟩
      · exact .inl ⟨a, s₁, .call ho h₁, h₂⟩
      · exact .inr ⟨m, .call ho h₁, rfl⟩
    · rintro (⟨a, s₁, (_ | _ | ⟨ho, h₁⟩), h₂⟩ | ⟨m, (_ | _ | ⟨ho, h₁⟩), rfl⟩)
      · exact .call ho ((ih _).2 (.inl ⟨a, s₁, h₁, h₂⟩))
      · exact .call ho ((ih _).2 (.inr ⟨m, h₁, rfl⟩))

@[simp] theorem Prog.runs_ret {a : α} {s s' : Store} {e : Exit α} :
    (Prog.ret a).Runs s e s' ↔ e = .returned a ∧ s' = s :=
  ⟨fun | .ret _ _ => ⟨rfl, rfl⟩, by rintro ⟨rfl, rfl⟩; exact .ret a _⟩

@[simp] theorem Prog.runs_pure {a : α} {s s' : Store} {e : Exit α} :
    (pure a : Prog α).Runs s e s' ↔ e = .returned a ∧ s' = s :=
  Prog.runs_ret

@[simp] theorem Prog.runs_panic {m : String} {s s' : Store} {e : Exit α} :
    (Prog.panic m : Prog α).Runs s e s' ↔ e = .panicked m ∧ s' = s :=
  ⟨fun | .panic _ _ => ⟨rfl, rfl⟩, by rintro ⟨rfl, rfl⟩; exact .panic m _⟩

/-- A bind that passes an error of its first part on unchanged: a run went through a returned
value, or it is a run of the first part that returns no value. -/
theorem Prog.runs_bind_ok {p : Prog (Except ε α)} {f : Except ε α → Prog (Except ε β)}
    {s s' : Store} {e : Exit (Except ε β)} (h : (p >>= f).Runs s e s')
    (hf : ∀ err, f (.error err) = pure (.error err)) :
    (∃ a s₁, p.Runs s (.returned (.ok a)) s₁ ∧ (f (.ok a)).Runs s₁ e s') ∨
      (∃ e', p.Runs s e' s') ∧ ∀ b, e ≠ .returned (.ok b) := by
  rcases Prog.runs_bind.1 h with ⟨r, s₁, h₁, h₂⟩ | ⟨m, h₁, rfl⟩
  · rcases r with err | a
    · rw [hf, Prog.runs_pure] at h₂
      obtain ⟨rfl, rfl⟩ := h₂
      exact .inr ⟨⟨_, h₁⟩, nofun⟩
    · exact .inl ⟨a, s₁, h₁, h₂⟩
  · exact .inr ⟨⟨_, h₁⟩, nofun⟩

/-- A bind whose continuation only returns: its runs end where a run of the first part ends. -/
theorem Prog.runs_bind_pure {p : Prog α} {f : α → Prog β} {s s' : Store} {e : Exit β}
    (h : (p >>= f).Runs s e s') (hf : ∀ a, ∃ b, f a = pure b) : ∃ e', p.Runs s e' s' := by
  rcases Prog.runs_bind.1 h with ⟨a, s₁, h₁, h₂⟩ | ⟨m, h₁, -⟩
  · obtain ⟨b, hb⟩ := hf a
    rw [hb, Prog.runs_pure] at h₂
    exact h₂.2 ▸ ⟨_, h₁⟩
  · exact ⟨_, h₁⟩

theorem Prog.runs_call {c : Call β} {k : β → Prog α} {s s' : Store} {e : Exit α} :
    (Prog.call c k).Runs s e s' ↔ ∃ b s₁, c.Outcome s b s₁ ∧ (k b).Runs s₁ e s' :=
  ⟨fun | .call ho hk => ⟨_, _, ho, hk⟩, fun ⟨_, _, ho, hk⟩ => .call ho hk⟩

/-- PCS may answer anything, and the store does not move. -/
@[simp] theorem Call.outcome_pcs {req : PcsRequest} {s s' : Store}
    {r : Except String HttpResponse} :
    (Call.pcs req).Outcome s r s' ↔ s' = s :=
  .rfl

@[simp] theorem Call.outcome_now {s s' : Store} {t : Nat} : Call.now.Outcome s t s' ↔ s' = s :=
  .rfl

@[simp] theorem upstream_runs {req : PcsRequest} {s s' : Store}
    {e : Exit (Except String HttpResponse)} :
    (upstream req).Runs s e s' ↔ s' = s ∧ ∃ r, e = .returned r := by
  simp only [upstream, Prog.runs_call, Call.outcome_pcs, Prog.runs_ret]
  constructor
  · rintro ⟨r, _, rfl, rfl, rfl⟩; exact ⟨rfl, r, rfl⟩
  · rintro ⟨rfl, r, rfl⟩; exact ⟨r, _, rfl, rfl, rfl⟩

@[simp] theorem timeNow_runs {s s' : Store} {e : Exit Nat} :
    timeNow.Runs s e s' ↔ s' = s ∧ ∃ t, e = .returned t := by
  simp only [timeNow, Prog.runs_call, Call.outcome_now, Prog.runs_ret]
  constructor
  · rintro ⟨t, _, rfl, rfl, rfl⟩; exact ⟨rfl, t, rfl⟩
  · rintro ⟨rfl, t, rfl⟩; exact ⟨t, _, rfl, rfl, rfl⟩

@[simp] theorem query_runs {c : Call (Except String β)} {s s' : Store}
    {e : Exit (Except String β)} :
    (query c).Runs s e s' ↔ ∃ b, c.Outcome s b s' ∧ e = .returned b := by
  simp only [query, Prog.runs_call, Prog.runs_ret]
  constructor
  · rintro ⟨b, _, ho, rfl, rfl⟩; exact ⟨b, ho, rfl⟩
  · rintro ⟨b, ho, rfl⟩; exact ⟨b, s', ho, rfl, rfl⟩

@[simp] theorem upstream_returns {req : PcsRequest} {s s' : Store}
    {r : Except String HttpResponse} : (upstream req).Runs s (.returned r) s' ↔ s' = s := by
  simp

@[simp] theorem upstream_not_panics {req : PcsRequest} {s s' : Store} {m : String} :
    ¬(upstream req).Runs s (.panicked m) s' := by
  simp

@[simp] theorem timeNow_returns {s s' : Store} {t : Nat} :
    timeNow.Runs s (.returned t) s' ↔ s' = s := by
  simp

@[simp] theorem timeNow_not_panics {s s' : Store} {m : String} :
    ¬timeNow.Runs s (.panicked m) s' := by
  simp

@[simp] theorem query_returns {c : Call (Except String β)} {s s' : Store} {b : Except String β} :
    (query c).Runs s (.returned b) s' ↔ c.Outcome s b s' := by
  simp

@[simp] theorem query_not_panics {c : Call (Except String β)} {s s' : Store} {m : String} :
    ¬(query c).Runs s (.panicked m) s' := by
  simp

/-! ## Runs with their PCS exchanges -/

/-- A PCS exchange: the request a handler sent and the reply, or transport error, it got. -/
abbrev Exchange := PcsRequest × Except String HttpResponse

/-- The PCS exchange a call makes with the answer it got: one for a GET to PCS, none for the
clock or a statement. -/
def Call.exchanges : (c : Call β) → β → List Exchange
  | .pcs req, r => [(req, r)]
  | _, _ => []

/-- The runs of a program with the PCS exchanges they made, in order: a statement about the
replies a handler got quantifies over this list. -/
inductive Prog.RunsOn : Prog α → List Exchange → Store → Exit α → Store → Prop
  | ret (a : α) (s : Store) : RunsOn (.ret a) [] s (.returned a) s
  | panic (m : String) (s : Store) : RunsOn (.panic m) [] s (.panicked m) s
  | call {c : Call β} {k : β → Prog α} {xs : List Exchange} {s s₁ s₂ : Store} {b : β}
      {e : Exit α} :
      c.Outcome s b s₁ → RunsOn (k b) xs s₁ e s₂ → RunsOn (.call c k) (c.exchanges b ++ xs) s e s₂

/-- A run with its exchanges is a run. -/
theorem Prog.RunsOn.runs {p : Prog α} {xs : List Exchange} {s s' : Store} {e : Exit α}
    (h : p.RunsOn xs s e s') : p.Runs s e s' := by
  induction h with
  | ret => exact .ret _ _
  | panic => exact .panic _ _
  | call ho _ ih => exact .call ho ih

/-- Every run made its exchanges. -/
theorem Prog.Runs.runsOn {p : Prog α} {s s' : Store} {e : Exit α} (h : p.Runs s e s') :
    ∃ xs, p.RunsOn xs s e s' := by
  induction h with
  | ret a s => exact ⟨[], .ret a s⟩
  | panic m s => exact ⟨[], .panic m s⟩
  | call ho _ ih =>
    obtain ⟨xs, h⟩ := ih
    exact ⟨_, .call ho h⟩

/-! ## A deterministic runner -/

/-- The answer to one call when PCS replies with the head of `replies`, the clock reads
`clock`, and every statement succeeds as the database answers it. -/
def Call.answer (clock : Nat) : Call β → List (Except String HttpResponse) → Store →
    Option (β × List (Except String HttpResponse) × Store)
  | .pcs _, r :: rs, s => some (r, rs, s)
  | .pcs _, [], _ => none
  | .now, rs, s => some (clock, rs, s)
  | .retrieve t k, rs, s => (Call.exec (.retrieve t k) s).map fun (b, s') => (b, rs, s')
  | .retrieveAll t, rs, s => (Call.exec (.retrieveAll t) s).map fun (b, s') => (b, rs, s')
  | .create t r, rs, s => (Call.exec (.create t r) s).map fun (b, s') => (b, rs, s')
  | .update t r, rs, s => (Call.exec (.update t r) s).map fun (b, s') => (b, rs, s')
  | .createChain c, rs, s => (Call.exec (.createChain c) s).map fun (b, s') => (b, rs, s')

/-- Runs a program against the PCS replies `replies`, in order, and the clock `clock`. -/
def Prog.runWith (clock : Nat) : List (Except String HttpResponse) → Prog α → Store →
    Option (Exit α × Store)
  | _, .ret a, s => some (.returned a, s)
  | _, .panic m, s => some (.panicked m, s)
  | rs, .call c k, s =>
    match c.answer clock rs s with
    | some (b, rs', s') => runWith clock rs' (k b) s'
    | none => none

theorem Call.answer_outcome {c : Call β} {clock : Nat} {rs rs' : List (Except String HttpResponse)}
    {s s' : Store} {b : β} (h : c.answer clock rs s = some (b, rs', s')) : c.Outcome s b s' := by
  cases c <;> cases rs <;> simp only [answer, Option.map_eq_some', Prod.mk.injEq,
    Option.some.injEq, reduceCtorEq] at h <;>
    first
    | (obtain ⟨⟨b', s''⟩, hx, rfl, -, rfl⟩ := h; exact .inl hx)
    | (obtain ⟨rfl, -, rfl⟩ := h; rfl)

/-- A run of the deterministic runner is one of the program's runs. -/
theorem Prog.runWith_runs {clock : Nat} {rs : List (Except String HttpResponse)} {p : Prog α}
    {s s' : Store} {e : Exit α} (h : p.runWith clock rs s = some (e, s')) : p.Runs s e s' := by
  induction p generalizing rs s with
  | ret a => cases h; exact .ret a _
  | panic m => cases h; exact .panic m _
  | call c k ih =>
    simp only [runWith] at h
    split at h
    · exact .call (Call.answer_outcome ‹_›) (ih _ h)
    · cases h

/-! ## What every run keeps -/

/-- Some row of table `t` has the key `k`. -/
def Store.HasKey (s : Store) (t : Table) (k : String) : Prop := k ∈ (s.rows t).map t.key

/-- Every key of every table of `s` is still a key in `s'`: no row was deleted. -/
def Store.Keeps (s s' : Store) : Prop := ∀ t k, s.HasKey t k → s'.HasKey t k

theorem Store.Keeps.refl (s : Store) : s.Keeps s := fun _ _ h => h

theorem Store.Keeps.trans {s₁ s₂ s₃ : Store} (h₁ : s₁.Keeps s₂) (h₂ : s₂.Keeps s₃) :
    s₁.Keeps s₃ := fun t k h => h₂ t k (h₁ t k h)

theorem Table.any_key_eq_true {t : Table} {rows : List t.Row} {k : String} :
    rows.any (fun x => t.key x == k) = true ↔ k ∈ rows.map t.key := by
  simp only [List.any_eq_true, beq_iff_eq, List.mem_map]

/-- `Save` keeps the keys of the table and adds the row's key when it was missing. -/
theorem Table.keys_save (t : Table) (rows : List t.Row) (r : t.Row) :
    (t.save rows r).map t.key =
      if t.key r ∈ rows.map t.key then rows.map t.key else rows.map t.key ++ [t.key r] := by
  unfold save
  by_cases h : t.key r ∈ rows.map t.key
  · rw [if_pos (Table.any_key_eq_true.2 h), if_pos h, List.map_map]
    congr 1
    funext x
    simp only [Function.comp]
    split <;> simp_all
  · rw [if_neg (mt Table.any_key_eq_true.1 h), if_neg h, List.map_append]
    rfl

theorem Store.keeps_setRows {s : Store} {t : Table} {rs : List t.Row}
    (h : ∀ k, k ∈ (s.rows t).map t.key → k ∈ rs.map t.key) : s.Keeps (s.setRows t rs) := by
  intro t' k hk
  by_cases ht : t' = t
  · subst ht
    simpa [HasKey] using h k hk
  · simpa [HasKey, Store.rows_setRows_of_ne ht] using hk

theorem Call.exec_keeps {c : Call β} {s s' : Store} {b : β} (h : c.exec s = some (b, s')) :
    s.Keeps s' := by
  cases c with
  | pcs => cases h
  | now => cases h
  | retrieve => cases h; exact .refl _
  | retrieveAll => cases h; exact .refl _
  | create t r =>
    simp only [exec] at h
    split_ifs at h <;> cases h
    · exact .refl _
    · exact Store.keeps_setRows fun k hk => by simp [hk]
    · exact .refl _
  | update t r =>
    simp only [exec] at h
    split_ifs at h <;> cases h
    · refine Store.keeps_setRows fun k hk => ?_
      rw [Table.keys_save]
      split <;> simp [hk]
    · exact .refl _
  | createChain => cases h; exact fun _ _ h => by simpa [Store.HasKey] using h

theorem Call.Outcome.keeps {c : Call β} {s s' : Store} {b : β} (h : c.Outcome s b s') :
    s.Keeps s' := by
  rcases h.eq_or_exec with rfl | hx
  exacts [.refl _, Call.exec_keeps hx]

/-- No run deletes a row or changes a row's key out of the table. -/
theorem Prog.Runs.keeps {p : Prog α} {s s' : Store} {e : Exit α} (h : p.Runs s e s') :
    s.Keeps s' := by
  induction h with
  | ret => exact .refl _
  | panic => exact .refl _
  | call ho _ ih => exact ho.keeps.trans ih

theorem Table.first_isSome (t : Table) : ∀ rows : List t.Row, (t.first rows).isSome ↔ rows ≠ []
  | [] => by simp [Table.first]
  | r :: rs => by
    simp only [Table.first, ne_eq, reduceCtorEq, not_false_eq_true, iff_true]
    split
    · split <;> rfl
    · rfl

theorem Table.first_mem {t : Table} : ∀ {rows : List t.Row} {r : t.Row},
    t.first rows = some r → r ∈ rows
  | [], _, h => nomatch h
  | x :: rs, r, h => by
    simp only [Table.first] at h
    split at h
    · rename_i m hm
      split at h <;> cases h
      exacts [List.mem_cons_of_mem _ (Table.first_mem hm), List.mem_cons_self _ _]
    · cases h
      exact List.mem_cons_self _ _

theorem Table.find_isSome {t : Table} {rows : List t.Row} {k : String} :
    (t.find rows k).isSome ↔ ∃ r ∈ rows, k = "" ∨ t.key r = k := by
  simp only [Table.find, Table.first_isSome, ne_eq, List.filter_eq_nil_iff, Bool.or_eq_true,
    beq_iff_eq, not_forall, not_not, exists_prop]

theorem Table.find_eq_some {t : Table} {rows : List t.Row} {k : String} {r : t.Row}
    (h : t.find rows k = some r) (hk : k ≠ "") : r ∈ rows ∧ t.key r = k := by
  have hr := List.mem_filter.1 (Table.first_mem h)
  simp only [Bool.or_eq_true, beq_iff_eq, hk, false_or] at hr
  exact hr

/-- A `Retrieve` leaves the store as it was, and a row it returns is the first with the key. -/
theorem Call.outcome_retrieve {t : Table} {k : String} {s s' : Store} {b : Except String t.Row}
    (h : (Call.retrieve t k).Outcome s b s') :
    s' = s ∧ ∀ r, b = .ok r → t.find (s.rows t) k = some r := by
  simp only [Call.Outcome, Call.exec, Call.failure, Option.some.injEq, Prod.mk.injEq] at h
  rcases h with ⟨hb, rfl⟩ | ⟨⟨m, rfl⟩, rfl⟩
  · refine ⟨rfl, fun r hr => ?_⟩
    subst hr
    split at hb <;> simp_all
  · exact ⟨rfl, fun r hr => nomatch hr⟩

/-- A `Create` appends its row under a key the table did not have, naming a chain the store
has; or it fails and the store is as it was. -/
theorem Call.outcome_create {t : Table} {r : t.Row} {s s' : Store} {b : Except String t.Row}
    (h : (Call.create t r).Outcome s b s') :
    (b = .ok r ∧ t.key r ∉ (s.rows t).map t.key ∧ t.refsIn r s.pckCertChains ∧
      s' = s.setRows t (s.rows t ++ [r])) ∨ (∃ m, b = .error m) ∧ s' = s := by
  simp only [Call.Outcome, Call.exec, Call.failure, Option.some.injEq] at h
  rcases h with h | ⟨⟨m, rfl⟩, rfl⟩
  · split_ifs at h with h₁ h₂ <;> obtain ⟨rfl, rfl⟩ := Prod.mk.inj (Option.some.inj h)
    · exact .inr ⟨⟨_, rfl⟩, rfl⟩
    · exact .inl ⟨rfl, mt Table.any_key_eq_true.2 h₁, h₂, rfl⟩
    · exact .inr ⟨⟨_, rfl⟩, rfl⟩
  · exact .inr ⟨⟨m, rfl⟩, rfl⟩

/-- An `Update` saves its row, naming a chain the store has; or it fails and the store is as
it was. -/
theorem Call.outcome_update {t : Table} {r : t.Row} {s s' : Store} {b : Except String Unit}
    (h : (Call.update t r).Outcome s b s') :
    (b = .ok () ∧ t.refsIn r s.pckCertChains ∧ s' = s.setRows t (t.save (s.rows t) r)) ∨
      (∃ m, b = .error m) ∧ s' = s := by
  simp only [Call.Outcome, Call.exec, Call.failure, Option.some.injEq] at h
  rcases h with h | ⟨⟨m, rfl⟩, rfl⟩
  · split_ifs at h with h₁ <;> obtain ⟨rfl, rfl⟩ := Prod.mk.inj (Option.some.inj h)
    · exact .inl ⟨rfl, h₁, rfl⟩
    · exact .inr ⟨⟨_, rfl⟩, rfl⟩
  · exact .inr ⟨⟨m, rfl⟩, rfl⟩

/-- A retrieve that finds a row keeps finding one: no run deletes a row. -/
theorem Store.Keeps.find_isSome {s s' : Store} (h : s.Keeps s') {t : Table} {k : String}
    (hk : (t.find (s.rows t) k).isSome) : (t.find (s'.rows t) k).isSome := by
  obtain ⟨r, hr, hrk⟩ := Table.find_isSome.1 hk
  obtain ⟨r', hr', hr'k⟩ := List.mem_map.1 (h t (t.key r) (List.mem_map_of_mem _ hr))
  exact Table.find_isSome.2 ⟨r', hr', hr'k ▸ hrk⟩

/-! ## Runs among other threads -/

/-- The runs of a program among other threads, with its PCS exchanges: before each of its calls,
and after its last, the other threads may have moved the store on, deleting no row. This is
what every step of the model guarantees the others (`Call.Outcome.keeps`). -/
inductive Prog.RunsAmid : Prog α → List Exchange → Store → Exit α → Store → Prop
  | ret (a : α) {s s' : Store} : s.Keeps s' → RunsAmid (.ret a) [] s (.returned a) s'
  | panic (m : String) {s s' : Store} : s.Keeps s' → RunsAmid (.panic m) [] s (.panicked m) s'
  | call {c : Call β} {k : β → Prog α} {xs : List Exchange} {s s₀ s₁ s₂ : Store} {b : β}
      {e : Exit α} : s.Keeps s₀ → c.Outcome s₀ b s₁ → RunsAmid (k b) xs s₁ e s₂ →
      RunsAmid (.call c k) (c.exchanges b ++ xs) s e s₂

section
variable {p : Prog α} {xs : List Exchange} {s s' : Store} {e : Exit α}

/-- A run alone is a run among threads that did nothing. -/
theorem Prog.RunsOn.amid (h : p.RunsOn xs s e s') : p.RunsAmid xs s e s' := by
  induction h with
  | ret a s => exact .ret a (.refl s)
  | panic m s => exact .panic m (.refl s)
  | call ho _ ih => exact .call (.refl _) ho ih

theorem Prog.RunsAmid.keeps (h : p.RunsAmid xs s e s') : s.Keeps s' := by
  induction h with
  | ret _ h => exact h
  | panic _ h => exact h
  | call h₀ ho _ ih => exact h₀.trans (ho.keeps.trans ih)

/-- What the other threads did before the first call belongs to the run. -/
theorem Prog.RunsAmid.of_keeps {s₀ : Store} (hk : s₀.Keeps s) (h : p.RunsAmid xs s e s') :
    p.RunsAmid xs s₀ e s' := by
  cases h with
  | ret a h => exact .ret a (hk.trans h)
  | panic m h => exact .panic m (hk.trans h)
  | call h₀ ho h => exact .call (hk.trans h₀) ho h

/-- What the other threads do after the last call belongs to the run. -/
theorem Prog.RunsAmid.then_keeps {s₂ : Store} (h : p.RunsAmid xs s e s') (hk : s'.Keeps s₂) :
    p.RunsAmid xs s e s₂ := by
  induction h with
  | ret a h => exact .ret a (h.trans hk)
  | panic m h => exact .panic m (h.trans hk)
  | call h₀ ho _ ih => exact .call h₀ ho (ih hk)

end

/-- The exchanges of a run of `p >>= f` among other threads: those of a run of `p` that
returned, then those of a run of `f`; or those of a run of `p` that panicked. -/
theorem Prog.runsAmid_bind {p : Prog α} {f : α → Prog β} {xs : List Exchange} {s s' : Store}
    {e : Exit β} (h : (p >>= f).RunsAmid xs s e s') :
    (∃ a s₁ xs₁ xs₂, xs = xs₁ ++ xs₂ ∧ p.RunsAmid xs₁ s (.returned a) s₁ ∧
        (f a).RunsAmid xs₂ s₁ e s') ∨
      (∃ m, p.RunsAmid xs s (.panicked m) s' ∧ e = .panicked m) := by
  induction p generalizing xs s with
  | ret a => exact .inl ⟨a, s, [], xs, rfl, .ret a (.refl s), h⟩
  | panic m =>
    rcases h with _ | ⟨_, hk⟩ | _
    exact .inr ⟨m, .panic m hk, rfl⟩
  | call c k ih =>
    rcases h with _ | _ | ⟨h₀, ho, hk⟩
    rcases ih _ hk with ⟨a, s₁, xs₁, xs₂, rfl, h₁, h₂⟩ | ⟨m, h₁, rfl⟩
    · exact .inl ⟨a, s₁, _, xs₂, (List.append_assoc _ _ _).symm, .call h₀ ho h₁, h₂⟩
    · exact .inr ⟨m, .call h₀ ho h₁, rfl⟩

@[simp] theorem Prog.runsAmid_ret {a : α} {xs : List Exchange} {s s' : Store} {e : Exit α} :
    (Prog.ret a).RunsAmid xs s e s' ↔ xs = [] ∧ e = .returned a ∧ s.Keeps s' :=
  ⟨fun | .ret _ h => ⟨rfl, rfl, h⟩, by rintro ⟨rfl, rfl, h⟩; exact .ret a h⟩

@[simp] theorem Prog.runsAmid_pure {a : α} {xs : List Exchange} {s s' : Store} {e : Exit α} :
    (pure a : Prog α).RunsAmid xs s e s' ↔ xs = [] ∧ e = .returned a ∧ s.Keeps s' :=
  Prog.runsAmid_ret

@[simp] theorem Prog.runsAmid_panic {m : String} {xs : List Exchange} {s s' : Store}
    {e : Exit α} :
    (Prog.panic m : Prog α).RunsAmid xs s e s' ↔ xs = [] ∧ e = .panicked m ∧ s.Keeps s' :=
  ⟨fun | .panic _ h => ⟨rfl, rfl, h⟩, by rintro ⟨rfl, rfl, h⟩; exact .panic m h⟩

/-- A bind that passes an error of its first part on unchanged: a run that returns a value went
through a value of the first part. -/
theorem Prog.runsAmid_bind_ok {p : Prog (Except ε α)} {f : Except ε α → Prog (Except ε β)}
    {xs : List Exchange} {s s' : Store} {b : β}
    (h : (p >>= f).RunsAmid xs s (.returned (.ok b)) s')
    (hf : ∀ err, f (.error err) = pure (.error err)) :
    ∃ a s₁ xs₁ xs₂, xs = xs₁ ++ xs₂ ∧ p.RunsAmid xs₁ s (.returned (.ok a)) s₁ ∧
      (f (.ok a)).RunsAmid xs₂ s₁ (.returned (.ok b)) s' := by
  rcases Prog.runsAmid_bind h with ⟨r, s₁, xs₁, xs₂, rfl, h₁, h₂⟩ | ⟨m, -, ⟨⟩⟩
  rcases r with err | a
  · rw [hf] at h₂
    cases (Prog.runsAmid_pure.1 h₂).2.1
  · exact ⟨a, s₁, xs₁, xs₂, rfl, h₁, h₂⟩

/-- One statement among other threads: it is answered in a later store, its exchanges are
those of its call, and the store moves on after it. -/
theorem query_runsAmid {c : Call (Except String β)} {xs : List Exchange} {s s' : Store}
    {e : Exit (Except String β)} (h : (query c).RunsAmid xs s e s') :
    ∃ s₀ b s₁, s.Keeps s₀ ∧ c.Outcome s₀ b s₁ ∧ s₁.Keeps s' ∧ xs = c.exchanges b ∧
      e = .returned b := by
  rcases h with _ | _ | ⟨h₀, ho, hk⟩
  obtain ⟨rfl, rfl, h₁⟩ := Prog.runsAmid_ret.1 hk
  exact ⟨_, _, _, h₀, ho, h₁, List.append_nil _, rfl⟩

/-- A GET to PCS makes one exchange, and returns its reply. -/
@[simp] theorem upstream_runsAmid {req : PcsRequest} {xs : List Exchange} {s s' : Store}
    {e : Exit (Except String HttpResponse)} :
    (upstream req).RunsAmid xs s e s' ↔ s.Keeps s' ∧ ∃ r, xs = [(req, r)] ∧ e = .returned r := by
  constructor
  · rintro (_ | _ | ⟨h₀, ho, hk⟩)
    obtain ⟨rfl, rfl, h₁⟩ := Prog.runsAmid_ret.1 hk
    exact ⟨h₀.trans ((show _ = _ from ho) ▸ h₁), _, rfl, rfl⟩
  · rintro ⟨h, r, rfl, rfl⟩
    exact .call (c := .pcs req) (b := r) (.refl s) rfl (.ret r h)

/-- The clock makes no exchange. -/
theorem timeNow_runsAmid {xs : List Exchange} {s s' : Store} {e : Exit Nat}
    (h : timeNow.RunsAmid xs s e s') : xs = [] ∧ s.Keeps s' ∧ ∃ t, e = .returned t := by
  rcases h with _ | _ | ⟨h₀, ho, hk⟩
  obtain ⟨rfl, rfl, h₁⟩ := Prog.runsAmid_ret.1 hk
  exact ⟨rfl, h₀.trans ((show _ = _ from ho) ▸ h₁), _, rfl⟩

/-! ## Programs that leave a table alone -/

/-- The keyed table a statement writes, if any. -/
def Call.writes : Call β → Option Table
  | .create t _ => some t
  | .update t _ => some t
  | _ => none

/-- `p` makes no `Create` or `Update` on table `t`, whatever the answers it gets. -/
def Prog.Avoids (t : Table) : Prog α → Prop
  | .ret _ => True
  | .panic _ => True
  | .call c k => c.writes ≠ some t ∧ ∀ b, (k b).Avoids t

theorem Prog.Avoids.bind {t : Table} {p : Prog α} {f : α → Prog β} (hp : p.Avoids t)
    (hf : ∀ a, (f a).Avoids t) : (p >>= f).Avoids t := by
  induction p with
  | ret a => exact hf a
  | panic m => trivial
  | call c k ih => exact ⟨hp.1, fun b => ih b (hp.2 b)⟩

theorem query_avoids {t : Table} {c : Call (Except String β)} (hc : c.writes ≠ some t) :
    (query c).Avoids t :=
  ⟨hc, fun _ => trivial⟩

theorem upstream_avoids (t : Table) (req : PcsRequest) : (upstream req).Avoids t :=
  ⟨by simp [Call.writes], fun _ => trivial⟩

theorem timeNow_avoids (t : Table) : timeNow.Avoids t := ⟨by simp [Call.writes], fun _ => trivial⟩

theorem Call.Outcome.rows_eq {t : Table} {c : Call β} {s s' : Store} {b : β}
    (hc : c.writes ≠ some t) (h : c.Outcome s b s') : s'.rows t = s.rows t := by
  rcases h.eq_or_exec with rfl | hx
  · rfl
  cases c with
  | pcs => cases hx
  | now => cases hx
  | retrieve => cases hx; rfl
  | retrieveAll => cases hx; rfl
  | create t' r =>
    simp only [Call.exec] at hx
    split_ifs at hx <;> cases hx
    · rfl
    · exact Store.rows_setRows_of_ne (fun h => hc (by rw [h]; rfl)) _ _
    · rfl
  | update t' r =>
    simp only [Call.exec] at hx
    split_ifs at hx <;> cases hx
    · exact Store.rows_setRows_of_ne (fun h => hc (by rw [h]; rfl)) _ _
    · rfl
  | createChain => cases hx; exact Store.rows_addChain _ _ _

/-- A run of a program that never writes `t` leaves the rows of `t` as they were. -/
theorem Prog.Avoids.rows_eq {t : Table} {p : Prog α} {s s' : Store} {e : Exit α}
    (hp : p.Avoids t) (h : p.Runs s e s') : s'.rows t = s.rows t := by
  induction h with
  | ret => rfl
  | panic => rfl
  | call ho _ ih => exact (ih (hp.2 _)).trans (ho.rows_eq hp.1)

/-! ## Programs that only read -/

/-- A call that leaves the store as it is: a PCS request, the clock, or a read. -/
def Call.IsRead : Call β → Prop
  | .pcs _ => True
  | .now => True
  | .retrieve _ _ => True
  | .retrieveAll _ => True
  | _ => False

/-- Every call `p` makes, whatever the answers, only reads. -/
def Prog.ReadOnly : Prog α → Prop
  | .ret _ => True
  | .panic _ => True
  | .call c k => c.IsRead ∧ ∀ b, (k b).ReadOnly

theorem Prog.ReadOnly.bind {p : Prog α} {f : α → Prog β} (hp : p.ReadOnly)
    (hf : ∀ a, (f a).ReadOnly) : (p >>= f).ReadOnly := by
  induction p with
  | ret a => exact hf a
  | panic m => trivial
  | call c k ih => exact ⟨hp.1, fun b => ih b (hp.2 b)⟩

theorem query_readOnly {c : Call (Except String β)} (hc : c.IsRead) : (query c).ReadOnly :=
  ⟨hc, fun _ => trivial⟩

theorem Call.Outcome.eq_of_isRead {c : Call β} {s s' : Store} {b : β} (hc : c.IsRead)
    (h : c.Outcome s b s') : s' = s := by
  rcases h.eq_or_exec with rfl | hx
  · rfl
  cases c <;> simp only [Call.IsRead] at hc <;> cases hx <;> rfl

/-- A run of a program that only reads leaves the store as it was. -/
theorem Prog.ReadOnly.runs_eq {p : Prog α} {s s' : Store} {e : Exit α} (hp : p.ReadOnly)
    (h : p.Runs s e s') : s' = s := by
  induction h with
  | ret => rfl
  | panic => rfl
  | call ho _ ih => exact (ih (hp.2 _)).trans (ho.eq_of_isRead hp.1)

/-! ## Invariants of programs -/

/-- Every run of `p` from a store where `I` holds ends in a store where `I` holds. -/
def Prog.Preserves (I : Store → Prop) (p : Prog α) : Prop :=
  ∀ s e s', p.Runs s e s' → I s → I s'

/-- No two rows of a keyed table share a primary key. -/
def Store.KeysUnique (s : Store) : Prop := ∀ t, ((s.rows t).map t.key).Nodup

theorem Store.keysUnique_empty : Store.empty.KeysUnique := fun t => by
  cases t <;> exact List.nodup_nil

theorem Store.keysUnique_setRows {s : Store} {t : Table} {rs : List t.Row}
    (hs : s.KeysUnique) (h : (rs.map t.key).Nodup) : (s.setRows t rs).KeysUnique := by
  intro t'
  by_cases ht : t' = t
  · subst ht
    simpa using h
  · simpa [Store.rows_setRows_of_ne ht] using hs t'

theorem Call.exec_keysUnique {c : Call β} {s s' : Store} {b : β} (h : c.exec s = some (b, s'))
    (hs : s.KeysUnique) : s'.KeysUnique := by
  cases c with
  | pcs => cases h
  | now => cases h
  | retrieve => cases h; exact hs
  | retrieveAll => cases h; exact hs
  | create t r =>
    simp only [exec] at h
    split_ifs at h with hnew <;> cases h
    · exact hs
    · rw [Table.any_key_eq_true] at hnew
      exact Store.keysUnique_setRows hs (by simpa using (hs t).concat hnew)
    · exact hs
  | update t r =>
    simp only [exec] at h
    split_ifs at h <;> cases h
    · refine Store.keysUnique_setRows hs ?_
      rw [Table.keys_save]
      split
      · exact hs t
      · simpa using (hs t).concat ‹_›
    · exact hs
  | createChain => cases h; exact fun t => by simpa using hs t

theorem Call.Outcome.keysUnique {c : Call β} {s s' : Store} {b : β} (h : c.Outcome s b s')
    (hs : s.KeysUnique) : s'.KeysUnique := by
  rcases h.eq_or_exec with rfl | hx
  exacts [hs, Call.exec_keysUnique hx hs]

/-- The primary-key constraint holds after every run that starts where it holds. -/
theorem Prog.Runs.keysUnique {p : Prog α} {s s' : Store} {e : Exit α} (h : p.Runs s e s')
    (hs : s.KeysUnique) : s'.KeysUnique := by
  induction h with
  | ret => exact hs
  | panic => exact hs
  | call ho _ ih => exact ih (ho.keysUnique hs)

end SgxCachingService
