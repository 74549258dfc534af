import OpenAgentControl.Adapters.Ledger.Ed25519Chain
import OpenAgentControl.Gateway.Replicas

/-! # A gateway without a database

Without `OAC_DATABASE_URL` a gateway is one process, and its ledger is a hash in memory. `record` awaits
nothing while it holds its lock, so for the other requests it is one step. Whatever such a gateway does,
replicas over the Postgres ledger can do as well, with the same receipts (`runs_as_replicas`). -/

namespace OpenAgentControl
set_option autoImplicit false
set_option maxHeartbeats 250000

open Foundations

/-- The state of the ledger, and what each request has been answered by it. -/
structure MemoryLedger (Req : Type) where
  previousHash : String
  answered : Req → Option (Except Exc ExecutionReceipt)

/-- The requests of a deployment, with what each one's `record` draws and its signer does. No two draw the
same id, and the signer answers with signatures of the key or raises. -/
structure SingleProcess (Req : Type) where
  deployment : Deployment Req
  sequenceId : Req → String
  timestamp : Req → UtcTime
  sign : Req → Bytes → Except Exc Bytes
  fresh : Function.Injective sequenceId
  signs : ∀ t data signature, sign t data = .ok signature → signature = deployment.key.sign data

namespace SingleProcess

variable {Req : Type} (p : SingleProcess Req)

def call (asked : RecordCall) (t : Req) : LedgerCall where
  call := asked
  sequenceId := p.sequenceId t
  timestamp := p.timestamp t
  sign := p.sign t

/-- The block that the call of a request comes to. -/
def block (asked : RecordCall) (t : Req) (previousHash : String) : SignedReceipt :=
  p.deployment.key.signed asked (p.sequenceId t) (p.timestamp t) previousHash

variable [DecidableEq Req]

def record (asked : RecordCall) (s : MemoryLedger Req) (t : Req) : Option (MemoryLedger Req) :=
  match s.answered t with
  | some _ => none
  | none =>
    let (answer, previousHash) :=
      Ed25519ChainLedger.record p.deployment.key (p.call asked t) s.previousHash
    some { previousHash, answered := Function.update s.answered t (some answer) }

variable {p} {s s' : MemoryLedger Req} {asked : RecordCall}

/-- A call is answered once: with an exception, and the head stays; or with what is signed at the head,
and the head moves past it. -/
theorem record_cases {t : Req} (h : p.record asked s t = some s') :
    s.answered t = none ∧
      ((∃ e, s' = { s with answered := Function.update s.answered t (some (.error e)) }) ∨
        s' = {
          previousHash := p.deployment.key.chain.link (p.block asked t s.previousHash)
          answered := Function.update s.answered t
            (some (.ok (p.block asked t s.previousHash).toReceipt)) }) := by
  unfold record at h
  cases hanswered : s.answered t with
  | some answer => simp [hanswered] at h
  | none =>
    refine ⟨rfl, ?_⟩
    simp only [hanswered, Ed25519ChainLedger.record_eq] at h
    cases hsigned : (p.call asked t).signed p.deployment.key s.previousHash with
    | error e =>
      simp only [hsigned, Option.some.injEq] at h
      exact Or.inl ⟨e, h.symm⟩
    | ok b =>
      simp only [hsigned, Option.some.injEq] at h
      rw [LedgerCall.signed_eq hsigned (p.signs t)] at h
      exact Or.inr h.symm

theorem answered_kept {t t' : Req} {answer : Except Exc ExecutionReceipt}
    (hstep : p.record asked s t = some s') (h : s.answered t' = some answer) :
    s'.answered t' = some answer := by
  obtain ⟨hnone, hcases⟩ := record_cases hstep
  have hne : t' ≠ t := by
    rintro rfl
    rw [hnone] at h
    cases h
  obtain ⟨e, rfl⟩ | rfl := hcases
  · simpa [Function.update_of_ne hne] using h
  · simpa [Function.update_of_ne hne] using h

theorem answered_by {t t' : Req} {answer : Except Exc ExecutionReceipt}
    (hstep : p.record asked s t = some s') (h : s'.answered t' = some answer) :
    s.answered t' = some answer ∨ t = t' := by
  by_cases ht : t' = t
  · exact Or.inr ht.symm
  · obtain ⟨-, ⟨e, rfl⟩ | rfl⟩ := record_cases hstep
    · exact Or.inl (by simpa [Function.update_of_ne ht] using h)
    · exact Or.inl (by simpa [Function.update_of_ne ht] using h)

variable (p) in
def parties : Parties Req Event RecordCall (Except Exc ExecutionReceipt) (MemoryLedger Req) Req where
  program := p.deployment.parties.program
  start := fun s => s = { previousHash := genesisHash, answered := fun _ => none }
  serve := fun asked s t s' => p.record asked s t = some s'
  asker := id
  answers := fun s t answer => s.answered t = some answer
  unanswered := by
    rintro s t answer rfl
    simp
  settled := fun _ _ _ _ _ _ hstep h => answered_kept hstep h
  answered_by := fun _ _ _ _ _ _ hstep h => answered_by hstep h

variable (p) in
/-- Every interleaving of the requests of the process. -/
abbrev system : System
    (JointState Req Event RecordCall (Except Exc ExecutionReceipt) (MemoryLedger Req))
    (JointStep Req Event (Except Exc ExecutionReceipt) Req) :=
  p.parties.system

/-! ## Replicas that do the same -/

variable (p) in
/-- A Postgres ledger, between transactions, with the same receipts and the same head. -/
structure Mirrors (s : MemoryLedger Req) (a : LedgerState Req) : Prop where
  lock : a.lock = none
  head : a.chainHead = s.previousHash
  waiting : ∀ t, s.answered t = none → a.phase t = .waiting
  answered : ∀ t receipt, s.answered t = some (.ok receipt) →
    ∃ b, a.phase t = .committed b ∧ receipt = b.toReceipt
  raised : ∀ t e, s.answered t = some (.error e) → a.phase t = .rolledBack
  drawn : ∀ row ∈ a.receipts, ∃ t, s.answered t ≠ none ∧ row.sequenceId = p.sequenceId t

variable {a : LedgerState Req}

omit [DecidableEq Req] in
theorem Mirrors.committed_iff (h : p.Mirrors s a) {t : Req} {receipt : ExecutionReceipt} :
    s.answered t = some (.ok receipt) ↔ ∃ b, a.phase t = .committed b ∧ receipt = b.toReceipt := by
  refine ⟨h.answered t receipt, ?_⟩
  rintro ⟨b, hphase, rfl⟩
  cases hanswered : s.answered t with
  | none =>
    rw [h.waiting t hanswered] at hphase
    cases hphase
  | some answer =>
    cases answer with
    | error e =>
      rw [h.raised t e hanswered] at hphase
      cases hphase
    | ok receipt =>
      obtain ⟨b', hphase', rfl⟩ := h.answered t receipt hanswered
      rw [hphase] at hphase'
      cases hphase'
      rfl

omit [DecidableEq Req] in
theorem Mirrors.undrawn (h : p.Mirrors s a) {t : Req} (hnone : s.answered t = none) :
    p.sequenceId t ∉ a.receipts.map ReceiptRow.sequenceId := by
  intro hmem
  obtain ⟨row, hrow, hid⟩ := List.mem_map.mp hmem
  obtain ⟨t', hanswered, hdrawn⟩ := h.drawn row hrow
  have hsame : t' = t := p.fresh (hdrawn.symm.trans hid)
  exact hanswered (hsame ▸ hnone)

/-- One more answer, in a phase that goes with it. -/
theorem Mirrors.updated (h : p.Mirrors s a) {t : Req} {answer : Except Exc ExecutionReceipt}
    {previousHash : String} {a' : LedgerState Req} {phase : Phase} (hlock : a'.lock = none)
    (hhead : a'.chainHead = previousHash) (hphase : a'.phase = Function.update a.phase t phase)
    (hok : ∀ receipt, answer = .ok receipt → ∃ b, phase = .committed b ∧ receipt = b.toReceipt)
    (herror : ∀ e, answer = .error e → phase = .rolledBack)
    (hrows : ∀ row ∈ a'.receipts, row ∈ a.receipts ∨ row.sequenceId = p.sequenceId t) :
    p.Mirrors { previousHash, answered := Function.update s.answered t (some answer) } a' where
  lock := hlock
  head := hhead
  waiting t' hwaits := by
    obtain ⟨-, ⟨⟩⟩ | ⟨hne, hwaits⟩ := update_eq_iff.mp hwaits
    rw [hphase, Function.update_of_ne hne]
    exact h.waiting t' hwaits
  answered t' receipt hanswered := by
    rw [hphase]
    obtain ⟨rfl, hanswer⟩ | ⟨hne, hanswered⟩ := update_eq_iff.mp hanswered
    · rw [Function.update_self]
      exact hok receipt (Option.some.inj hanswer)
    · rw [Function.update_of_ne hne]
      exact h.answered t' receipt hanswered
  raised t' e hraised := by
    rw [hphase]
    obtain ⟨rfl, hanswer⟩ | ⟨hne, hraised⟩ := update_eq_iff.mp hraised
    · rw [Function.update_self]
      exact herror e (Option.some.inj hanswer)
    · rw [Function.update_of_ne hne]
      exact h.raised t' e hraised
  drawn row hrow := by
    obtain hold | hnew := hrows row hrow
    · obtain ⟨t', hanswered, hdrawn⟩ := h.drawn row hold
      refine ⟨t', ?_, hdrawn⟩
      by_cases ht : t' = t
      · simp [ht]
      · simpa [Function.update_of_ne ht] using hanswered
    · exact ⟨t, by simp, hnew⟩

/-- An exception is a rollback. -/
theorem Mirrors.refused (h : p.Mirrors s a) {t : Req} (hnone : s.answered t = none) (e : Exc) :
    ∃ a', (p.deployment.parties.serving t asked).Leads a a' ∧
      p.Mirrors { s with answered := Function.update s.answered t (some (.error e)) } a' := by
  have hstep : p.deployment.parties.serve asked a (.rollback t)
      { a with phase := Function.update a.phase t .rolledBack } := by
    show LedgerConfig.next _ _ _ = _
    simp [LedgerConfig.next, h.waiting t hnone]
  refine ⟨_, .step .refl ⟨rfl, hstep⟩,
    h.updated h.lock h.head rfl (fun receipt habs => ?_) (fun _ _ => rfl) fun _ hrow => Or.inl hrow⟩
  cases habs

/-- A receipt is a transaction from its lock to its commit. -/
theorem Mirrors.recorded (h : p.Mirrors s a) {t : Req} (hnone : s.answered t = none) :
    ∃ a', (p.deployment.parties.serving t asked).Leads a a' ∧
      p.Mirrors {
        previousHash := p.deployment.key.chain.link (p.block asked t s.previousHash)
        answered := Function.update s.answered t
          (some (.ok (p.block asked t s.previousHash).toReceipt)) } a' := by
  let serving : LedgerConfig Req := ⟨p.deployment.key, p.deployment.backend, fun _ => asked⟩
  have hserves : ∀ s l s', LedgerStep.tx l = t → serving.next s l = some s' →
      (p.deployment.parties.serving t asked).step s l s' := fun _ _ _ htx hnext => ⟨htx, hnext⟩
  have hleads := LedgerConfig.leads_appended hserves (h.waiting t hnone) h.lock (h.undrawn hnone)
    (p.timestamp t)
  have hblock : serving.key.signed (serving.call t) (p.sequenceId t) (p.timestamp t) a.chainHead =
      p.block asked t s.previousHash := by
    rw [h.head]
    rfl
  simp only [LedgerConfig.appended, hblock] at hleads
  refine ⟨_, hleads, h.updated rfl rfl rfl (fun receipt hanswer => ?_) (fun e habs => ?_)
    fun row hrow => ?_⟩
  · exact ⟨_, rfl, (Except.ok.inj hanswer).symm⟩
  · cases habs
  · exact (List.mem_append.mp hrow).imp_right fun hnew => by rw [List.mem_singleton.mp hnew]; rfl

theorem refines : Parties.Refines p.parties p.deployment.parties p.Mirrors where
  program := rfl
  start := by
    rintro s rfl
    exact ⟨LedgerConfig.initial 1, ⟨1, rfl⟩, rfl, rfl, fun _ _ => rfl, nofun, nofun, nofun⟩
  step := by
    intro asked s t s' a h hstep
    obtain ⟨hnone, ⟨e, rfl⟩ | rfl⟩ := record_cases hstep
    · exact h.refused hnone e
    · exact h.recorded hnone
  answers := by
    intro s a t answer h hanswered
    show (a.phase t).Answers answer
    cases answer with
    | ok receipt =>
      obtain ⟨b, hphase, rfl⟩ := h.answered t receipt hanswered
      rw [hphase]
      rfl
    | error e =>
      rw [h.raised t e hanswered]
      trivial

/-- Whatever the requests of the process have done, and whatever receipts they were given: the requests
of replicas over a Postgres ledger can have done the same, for receipts that were all committed, and the
next one would be linked to the same head. -/
theorem runs_as_replicas {s : JointState Req Event RecordCall (Except Exc ExecutionReceipt)
    (MemoryLedger Req)} (h : p.system.Reachable s) :
    ∃ ledger : LedgerState Req, p.deployment.system.Reachable ⟨ledger, s.left, s.log⟩ ∧
      ledger.chainHead = s.store.previousHash ∧
      ∀ t receipt, s.store.answered t = some (.ok receipt) ↔
        ∃ b, ledger.phase t = .committed b ∧ receipt = b.toReceipt := by
  obtain ⟨ledger, hreached, hmirrors⟩ := refines.reachable h
  exact ⟨ledger, hreached, hmirrors.head, fun t receipt => hmirrors.committed_iff⟩

/-- A request that has come to the ledger is recorded when the signer signs. -/
theorem reachable_signed {store : MemoryLedger Req}
    {left : Req → Program Event RecordCall (Except Exc ExecutionReceipt)} {log : List (Req × Event)}
    (h : p.system.Reachable ⟨store, left, log⟩) {t : Req}
    {k : Except Exc ExecutionReceipt → Program Event RecordCall (Except Exc ExecutionReceipt)}
    (hleft : left t = .ask asked k) (hnone : store.answered t = none)
    (hsigns : p.sign t = fun data => .ok (p.deployment.key.sign data)) :
    p.system.Reachable ⟨{
        previousHash := p.deployment.key.chain.link (p.block asked t store.previousHash)
        answered := Function.update store.answered t
          (some (.ok (p.block asked t store.previousHash).toReceipt)) }, left, log⟩ := by
  have hserve : p.parties.serve asked store t _ :=
    show p.record asked store t = some _ by
      simp only [record, hnone, Ed25519ChainLedger.record_eq, LedgerCall.signed, call, hsigns,
        Except.map]
      rfl
  exact h.step (.store hleft hserve)

/-! ## Two requests of one process -/

def bothInProcess : SingleProcess Bool where
  deployment := Deployment.both
  sequenceId := fun asks => if asks then "receipt-2" else "receipt-1"
  timestamp := fun _ => LedgerConfig.oneTime
  sign := fun _ data => .ok (LedgerConfig.echoKey.sign data)
  fresh := fun asks asks' => by revert asks asks'; decide
  signs := by
    rintro t data signature ⟨⟩
    rfl

/-- Both decide, the call is recorded before the question, and then goes on. -/
theorem bothInProcess_reachable : ∃ s, bothInProcess.system.Reachable s ∧
    (∀ t, ∃ receipt, s.store.answered t = some (.ok receipt)) ∧
    ∃ ev, (false, ev) ∈ s.log ∧ ev.isForward = true := by
  have hcall := GatewayRequest.program_of_decided (r := Deployment.both.request false) rfl
  have hquestion := GatewayRequest.program_of_decided (r := Deployment.both.request true) rfl
  have hstart : bothInProcess.system.Reachable
      ⟨⟨genesisHash, fun _ => none⟩, bothInProcess.parties.program, []⟩ := .start ⟨rfl, rfl, rfl⟩
  have hopened := Parties.reachable_performed hstart (p := true) hquestion
  have hopened' := Parties.reachable_performed hopened (p := false)
    ((Function.update_of_ne (by decide) _ _).trans hcall)
  have hrecorded := reachable_signed hopened' (t := false) (Function.update_self _ _ _) rfl rfl
  have hrecorded' := reachable_signed hrecorded (t := true)
    ((Function.update_of_ne (by decide) _ _).trans (Function.update_self _ _ _)) rfl rfl
  have htold := Parties.reachable_resumed hrecorded' (p := false) (Function.update_self _ _ _)
    (show some _ = some _ from rfl)
  have hdone := Parties.reachable_performed htold (p := false) (Function.update_self _ _ _)
  have hforwards : ∀ receipt, ∃ ev, ev ∈ (Deployment.both.request false).resume fixedAgent
      (Deployment.both.recorded false).request ⟨.allow, ""⟩ true (.ok receipt) ∧
      ev.isForward = true := fun _ => ⟨_, List.mem_of_getLast? rfl, rfl⟩
  obtain ⟨ev, hmem, hforward⟩ := hforwards _
  refine ⟨_, hdone, fun t => ?_, ev, ?_, hforward⟩
  · cases t with
    | false => exact ⟨_, rfl⟩
    | true => exact ⟨_, rfl⟩
  · exact List.mem_append_right _ (List.mem_map_of_mem hmem)

/-- The requests of the process go through, and replicas can have done the same. -/
theorem bothInProcess_as_replicas : ∃ s ledger, bothInProcess.system.Reachable s ∧
    (∃ ev, (false, ev) ∈ s.log ∧ ev.isForward = true) ∧
    Deployment.both.system.Reachable ⟨ledger, s.left, s.log⟩ ∧
    ∀ t, ∃ b, ledger.phase t = .committed b := by
  obtain ⟨s, hreached, hanswered, hforwards⟩ := bothInProcess_reachable
  obtain ⟨ledger, hreplicas, -, hreceipts⟩ := runs_as_replicas hreached
  refine ⟨s, ledger, hreached, hforwards, hreplicas, fun t => ?_⟩
  obtain ⟨receipt, hreceipt⟩ := hanswered t
  obtain ⟨b, hphase, -⟩ := (hreceipts t receipt).mp hreceipt
  exact ⟨b, hphase⟩

end SingleProcess

end OpenAgentControl
