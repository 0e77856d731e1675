import TransactionV1.Web3.InTurn

/-! # A confidential transfer in one transaction

`ts/web3js-v3/src/lib/confidential.ts` and `ts/web3js-v3/src/confidential-transfer.ts`. The
setup takes six transactions. The transfer with its proofs takes one, whatever its plan
holds, and one more makes what the recipient received available.
-/

namespace TransactionV1.Web3

open Dialogue TypeScript

/-- The arguments of `getCreateMintInstructionPlan`. -/
structure MintArgs (κ : Type) where
  decimals : ℕ
  auditorElgamalPubkey : Option String
  authority : String
  autoApproveNewAccounts : Bool
  mintAuthority : κ
  newMint : κ
  payer : κ

/-- The arguments of `getMintToATAInstructionPlanAsync`. -/
structure MintToArgs (κ : Type) where
  amount : ℕ
  decimals : ℕ
  mint : String
  mintAuthority : κ
  owner : String
  payer : κ

/-- The arguments of `getConfidentialDepositInstruction`. -/
structure DepositArgs (κ : Type) where
  amount : ℕ
  authority : κ
  decimals : ℕ
  mint : String
  token : String

structure TokenSdk extends Sdk where
  ElGamalSecretKey : Type
  AeKeyBytes : Type
  ConfidentialKeys : Type
  MintAccount : Type
  TokenAccount : Type
  keypairAddress : Keypair → String
  keysOfBytes : ElGamalSecretKey → AeKeyBytes → Except JsError ConfidentialKeys
  findAssociatedTokenPda : String → String → Except JsError String
  getApplyPendingBalanceInstruction : ConfidentialKeys → Keypair → String → TokenAccount →
    Except JsError InstructionPlan
  getMintToATAInstructionPlan : MintToArgs Keypair → Except JsError InstructionPlan
  getConfidentialDepositInstruction : DepositArgs Keypair → Except JsError InstructionPlan

/-- `ConfidentialParty`. -/
structure Party (sdk : TokenSdk) where
  keys : sdk.ConfidentialKeys
  owner : sdk.Keypair
  token : String

/-- The arguments of `getConfidentialTransferInstructionPlan`. -/
structure TransferArgs (sdk : TokenSdk) where
  keys : sdk.ConfidentialKeys
  amount : ℕ
  authority : sdk.Keypair
  destinationToken : String
  destinationTokenAccount : sdk.TokenAccount
  mint : String
  mintAccount : sdk.MintAccount
  payer : sdk.Keypair
  sourceToken : String
  sourceTokenAccount : sdk.TokenAccount

/-- What is asked through the libraries. The plans need rents, and the keys signatures. -/
inductive Request (sdk : TokenSdk) where
  | createMintPlan (args : MintArgs sdk.Keypair)
  | deriveElGamalKeypair (mint : String) (owner : sdk.Keypair)
  | deriveAeKey (mint : String) (owner : sdk.Keypair)
  | createAccountPlan (keys : sdk.ConfidentialKeys) (mint : String) (owner payer : sdk.Keypair)
  | fetchMint (mint : String)
  | fetchToken (token : String)
  | fetchBalance (keys : sdk.ConfidentialKeys) (token : String)
  | transferPlan (args : TransferArgs sdk)

/-- What each request resolves to. Of a balance, the available part. -/
def Reply (sdk : TokenSdk) : Request sdk → Type
  | .createMintPlan _ => sdk.InstructionPlan
  | .deriveElGamalKeypair _ _ => sdk.ElGamalSecretKey
  | .deriveAeKey _ _ => sdk.AeKeyBytes
  | .createAccountPlan _ _ _ _ => sdk.InstructionPlan
  | .fetchMint _ => sdk.MintAccount
  | .fetchToken _ => sdk.TokenAccount
  | .fetchBalance _ _ => ℕ
  | .transferPlan _ => sdk.InstructionPlan

section Program

variable (sdk : TokenSdk)

abbrev TokenAsync (α : Type) := Async sdk.toSdk (Reply sdk) α

abbrev TokenTranscript := Transcript sdk.toSdk (Reply sdk)

variable {sdk}

def call (request : Request sdk) : TokenAsync sdk (Reply sdk request) :=
  attempt (Question.request request)

def fetchPartyBalance (party : Party sdk) : TokenAsync sdk ℕ :=
  call (.fetchBalance party.keys party.token)

def deriveConfidentialKeys (owner : sdk.Keypair) (mint : String) :
    TokenAsync sdk sdk.ConfidentialKeys := do
  let derived : sdk.ElGamalSecretKey × sdk.AeKeyBytes ← attemptBoth
    (Question.request (Request.deriveElGamalKeypair mint owner))
    (Question.request (Request.deriveAeKey mint owner))
  ofExcept (sdk.keysOfBytes derived.1 derived.2)

def createConfidentialMint (payer : sdk.Keypair) : TokenAsync sdk String := do
  let mint : sdk.Keypair ← attempt Question.generate
  let plan : sdk.InstructionPlan ← call (.createMintPlan
    { decimals := 2
      auditorElgamalPubkey := none
      authority := sdk.keypairAddress payer
      autoApproveNewAccounts := true
      mintAuthority := payer
      newMint := mint
      payer := payer })
  let _ ← send payer plan
  return sdk.keypairAddress mint

def createConfidentialParty (payer : sdk.Keypair) (mint : String) (owner : sdk.Keypair) :
    TokenAsync sdk (Party sdk) := do
  let keys ← deriveConfidentialKeys owner mint
  let token ← ofExcept (sdk.findAssociatedTokenPda mint (sdk.keypairAddress owner))
  let plan : sdk.InstructionPlan ← call (.createAccountPlan keys mint owner payer)
  let _ ← send payer plan
  return ⟨keys, owner, token⟩

def applyPendingBalance (payer : sdk.Keypair) (party : Party sdk) : TokenAsync sdk Unit := do
  let account : sdk.TokenAccount ← call (.fetchToken party.token)
  let instruction ← ofExcept
    (sdk.getApplyPendingBalanceInstruction party.keys party.owner party.token account)
  let _ ← send payer instruction

def fundConfidentially (payer : sdk.Keypair) (mint : String) (party : Party sdk) (amount : ℕ) :
    TokenAsync sdk Unit := do
  let plan ← ofExcept (sdk.getMintToATAInstructionPlan
    { amount := amount
      decimals := 2
      mint := mint
      mintAuthority := payer
      owner := sdk.keypairAddress party.owner
      payer := payer })
  let _ ← send payer plan
  let instruction ← ofExcept (sdk.getConfidentialDepositInstruction
    { amount := amount
      authority := party.owner
      decimals := 2
      mint := mint
      token := party.token })
  let _ ← send payer instruction
  applyPendingBalance payer party

def startingBalance : ℕ := 10000

def transferAmount : ℕ := 2500

/-- `units`. The division is exact here and `toFixed` rounds that of a Number, but it is only
printed. -/
def units (amount : ℕ) : String :=
  toString (amount / 100) ++ "." ++ toString (amount % 100 / 10) ++ toString (amount % 10)

structure Setup (sdk : TokenSdk) where
  payer : sdk.Keypair
  mint : String
  senderParty : Party sdk
  recipientParty : Party sdk

/-- The first part of the program, up to the lines about the setup. -/
def setUp : TokenAsync sdk (Setup sdk) := do
  let payer ← fundedKeypair 20000000000
  let recipient : sdk.Keypair ← attempt Question.generate
  let mint ← createConfidentialMint payer
  let senderParty ← createConfidentialParty payer mint payer
  let recipientParty ← createConfidentialParty payer mint recipient
  fundConfidentially payer mint senderParty startingBalance
  println "== setup =="
  println ("  mint:              " ++ mint)
  println ("  sender token:      " ++ senderParty.token)
  println ("  recipient token:   " ++ recipientParty.token)
  let available ← fetchPartyBalance senderParty
  println ("  sender available:  " ++ units available)
  return ⟨payer, mint, senderParty, recipientParty⟩

def fetchAccounts (mint source destination : String) :
    TokenAsync sdk (sdk.MintAccount × sdk.TokenAccount × sdk.TokenAccount) := do
  let mintAccount : Except JsError sdk.MintAccount ←
    query (Question.request (Request.fetchMint mint))
  let sourceAccount : Except JsError sdk.TokenAccount ←
    query (Question.request (Request.fetchToken source))
  let destinationAccount : Except JsError sdk.TokenAccount ←
    query (Question.request (Request.fetchToken destination))
  ofExcept (do return (← mintAccount, ← sourceAccount, ← destinationAccount))

def transfer (s : Setup sdk) : TokenAsync sdk String := do
  let (mintAccount, sourceAccount, destinationAccount) ←
    fetchAccounts s.mint s.senderParty.token s.recipientParty.token
  let transferPlan : sdk.InstructionPlan ← call (.transferPlan
    { keys := s.senderParty.keys
      amount := transferAmount
      authority := s.senderParty.owner
      destinationToken := s.recipientParty.token
      destinationTokenAccount := destinationAccount
      mint := s.mint
      mintAccount := mintAccount
      payer := s.payer
      sourceToken := s.senderParty.token
      sourceTokenAccount := sourceAccount })
  let (signature, transaction) ← send s.payer transferPlan
  println "\n== packed as one v1 transaction =="
  println ("  instructions:  " ++ toString (sdk.instructionCount transaction))
  println ("  size:          " ++ toString (sdk.serializedSize transaction) ++ " of 4096 bytes")
  return signature

def showSent (signature : String) : TokenAsync sdk Unit := do
  let sent : Option sdk.Fetched ← attempt (Question.getTransaction signature 1)
  match sent with
  | none => threw (.error "the transaction just sent was not found")
  | some sent => do
    println "\n== sent =="
    println ("  signature:       " ++ signature)
    println ("  version:         " ++ sdk.envelopeVersion sent)
    println ("  compute units:   " ++ sdk.computeUnitsConsumed sent ++ " consumed")
    println ("  config:          " ++ (sdk.transactionConfig sent).elim "none" sdk.json)

/-- Show both balances and compare them with what they should be. -/
def reportBalances (sender recipient : ℕ) : TokenAsync sdk Unit := do
  println "\n== balances =="
  println ("  sender:     " ++ units sender)
  println ("  recipient:  " ++ units recipient)
  if sender ≠ startingBalance - transferAmount then
    threw (.error "the sender balance did not decrease by the transfer amount")
  else if recipient ≠ transferAmount then
    threw (.error "the recipient balance did not increase by the transfer amount")
  else println "  both balances decrypted to the expected amounts"

def checkBalances (s : Setup sdk) : TokenAsync sdk Unit := do
  let balances : ℕ × ℕ ← attemptBoth
    (Question.request (Request.fetchBalance s.senderParty.keys s.senderParty.token))
    (Question.request (Request.fetchBalance s.recipientParty.keys s.recipientParty.token))
  reportBalances balances.1 balances.2

def confidentialTransfer : TokenAsync sdk Unit := do
  let s ← setUp
  let signature ← transfer s
  showSent signature
  applyPendingBalance s.payer s.recipientParty
  checkBalances s

end Program

section Sending

variable {sdk : TokenSdk}

theorem isAside_call (request : Request sdk) :
    Only (fun x => x.1.IsAside) (call request : TokenAsync sdk (Reply sdk request)) :=
  .attempt fun _ => trivial

theorem isAside_generate :
    Only (fun x => x.1.IsAside) (attempt Question.generate : TokenAsync sdk sdk.Keypair) :=
  .attempt fun _ => trivial

theorem isAside_deriveConfidentialKeys (owner : sdk.Keypair) (mint : String) :
    Only (fun x => x.1.IsAside)
      (deriveConfidentialKeys owner mint : TokenAsync sdk sdk.ConfidentialKeys) :=
  .bind (.attemptBoth (fun _ => trivial) fun _ => trivial) fun _ => .ofExcept _

theorem createConfidentialMint_advances (payer : sdk.Keypair) :
    Advances 1 (createConfidentialMint payer : TokenAsync sdk String) := by
  apply Advances.aside isAside_generate
  intro mint
  apply Advances.aside (isAside_call _)
  intro plan
  exact (send_advances payer plan).bind fun _ => .of_only (.pure _)

theorem createConfidentialParty_advances (payer : sdk.Keypair) (mint : String)
    (owner : sdk.Keypair) :
    Advances 1 (createConfidentialParty payer mint owner : TokenAsync sdk (Party sdk)) := by
  apply Advances.aside (isAside_deriveConfidentialKeys owner mint)
  intro keys
  apply Advances.aside (.ofExcept _)
  intro token
  apply Advances.aside (isAside_call _)
  intro plan
  exact (send_advances payer plan).bind fun _ => .of_only (.pure _)

theorem applyPendingBalance_advances (payer : sdk.Keypair) (party : Party sdk) :
    Advances 1 (applyPendingBalance payer party : TokenAsync sdk Unit) := by
  apply Advances.aside (isAside_call _)
  intro account
  apply Advances.aside (.ofExcept _)
  intro instruction
  exact (send_advances payer instruction).bind fun _ => .of_only (.pure ())

theorem fundConfidentially_advances (payer : sdk.Keypair) (mint : String) (party : Party sdk)
    (amount : ℕ) :
    Advances 3 (fundConfidentially payer mint party amount : TokenAsync sdk Unit) := by
  apply Advances.aside (.ofExcept _)
  intro plan
  apply (send_advances payer plan).next
  intro _
  apply Advances.aside (.ofExcept _)
  intro instruction
  exact (send_advances payer instruction).next fun _ => applyPendingBalance_advances payer party

theorem setUp_advances : Advances 6 (setUp : TokenAsync sdk (Setup sdk)) := by
  apply (fundedKeypair_advances _).free
  intro payer
  apply Advances.aside isAside_generate
  intro recipient
  apply (createConfidentialMint_advances payer).next
  intro mint
  apply (createConfidentialParty_advances payer mint payer).next
  intro senderParty
  apply (createConfidentialParty_advances payer mint recipient).next
  intro recipientParty
  refine (fundConfidentially_advances payer mint senderParty _).bind fun _ => .of_only ?_
  apply Only.bind (isAside_println _)
  intro _
  apply Only.bind (isAside_println _)
  intro _
  apply Only.bind (isAside_println _)
  intro _
  apply Only.bind (isAside_println _)
  intro _
  apply Only.bind (isAside_call _)
  intro available
  apply Only.bind (isAside_println _)
  intro _
  exact .pure _

theorem transfer_advances (s : Setup sdk) :
    Advances 1 (transfer s : TokenAsync sdk String) := by
  have hfetch : Only (fun x => x.1.IsAside) (fetchAccounts s.mint s.senderParty.token
      s.recipientParty.token : TokenAsync sdk _) :=
    .bind (.query fun _ => trivial) fun _ => .bind (.query fun _ => trivial) fun _ =>
      .bind (.query fun _ => trivial) fun _ => .ofExcept _
  apply Advances.aside hfetch
  intro accounts
  apply Advances.aside (isAside_call _)
  intro plan
  refine (send_advances s.payer plan).bind fun r => .of_only ?_
  apply Only.bind (isAside_println _)
  intro _
  apply Only.bind (isAside_println _)
  intro _
  exact .bind (isAside_println _) fun _ => .pure _

theorem isAside_showSent (signature : String) :
    Only (fun x => x.1.IsAside) (showSent signature : TokenAsync sdk Unit) := by
  refine .bind (.attempt fun _ => trivial) fun sent => ?_
  cases sent with
  | none => exact .threw _
  | some sent =>
    apply Only.bind (isAside_println _)
    intro _
    apply Only.bind (isAside_println _)
    intro _
    apply Only.bind (isAside_println _)
    intro _
    apply Only.bind (isAside_println _)
    intro _
    exact isAside_println _

theorem isAside_checkBalances (s : Setup sdk) :
    Only (fun x => x.1.IsAside) (checkBalances s : TokenAsync sdk Unit) := by
  refine .bind (.attemptBoth (fun _ => trivial) fun _ => trivial) fun balances => ?_
  apply Only.bind (isAside_println _)
  intro _
  apply Only.bind (isAside_println _)
  intro _
  apply Only.bind (isAside_println _)
  intro _
  split_ifs
  · exact .threw _
  · exact .threw _
  · exact isAside_println _

theorem confidentialTransfer_advances :
    Advances 8 (confidentialTransfer : TokenAsync sdk Unit) := by
  apply setUp_advances.bind (l := 2)
  intro s
  apply (transfer_advances s).next
  intro signature
  apply Advances.aside (isAside_showSent signature)
  intro _
  exact (applyPendingBalance_advances s.payer s.recipientParty).bind fun _ =>
    .of_only (isAside_checkBalances s)

end Sending

section Returning

variable {sdk : TokenSdk} {s : Setup sdk} {signature : String}

/-- A plan was sent as one transaction, signed by everyone on it. -/
def Sends (payer : sdk.Keypair) (input : sdk.InstructionPlan) (signature : String)
    (t : TokenTranscript sdk) : Prop :=
  ∃ signers, instructionSigners sdk.toPlans input = .ok signers ∧
    Lands payer [input] signers {} signature t

theorem Sends.mono {payer : sdk.Keypair} {input : sdk.InstructionPlan} {t t' : TokenTranscript sdk}
    (h : Sends payer input signature t) (ht : t ⊆ t') : Sends payer input signature t' := by
  obtain ⟨signers, hs, hl⟩ := h
  exact ⟨signers, hs, hl.mono ht⟩

theorem returning_send (payer : sdk.Keypair) (input : sdk.InstructionPlan) :
    Returning (fun r t => Sends payer input r.1 t)
      (send payer input : TokenAsync sdk (String × sdk.Transaction)) :=
  Returning.ofExcept fun signers hs =>
    Ensures.mono returning_sendV1Transaction fun _ _ h a ha => ⟨signers, hs, h a ha⟩

/-- The plan for the transfer between the tokens of a setup was sent. -/
def Transferred (s : Setup sdk) (signature : String) (t : TokenTranscript sdk) : Prop :=
  ∃ args plan, args.keys = s.senderParty.keys ∧ args.amount = transferAmount ∧
    args.sourceToken = s.senderParty.token ∧ args.destinationToken = s.recipientParty.token ∧
    ⟨.request (.transferPlan args), .ok plan⟩ ∈ t ∧ Sends s.payer plan signature t

theorem Transferred.mono {t t' : TokenTranscript sdk} (h : Transferred s signature t)
    (ht : t ⊆ t') : Transferred s signature t' := by
  obtain ⟨args, plan, hk, ha, hs, hd, hp, hsent⟩ := h
  exact ⟨args, plan, hk, ha, hs, hd, ht hp, hsent.mono ht⟩

theorem returning_transfer :
    Returning (fun signature t => Transferred s signature t)
      (transfer s : TokenAsync sdk String) := by
  refine Returning.right (fun _ t t' h => h.mono (List.subset_append_right t t')) fun accounts => ?_
  refine Returning.attempt.bind ?_
  rintro plan _ rfl
  refine (returning_send s.payer plan).bind ?_
  rintro ⟨signature, transaction⟩ t hsent
  have htail : Returning (fun a _ => a = signature) (do
      println "\n== packed as one v1 transaction =="
      println ("  instructions:  " ++ toString (sdk.instructionCount transaction))
      println ("  size:          " ++ toString (sdk.serializedSize transaction) ++ " of 4096 bytes")
      return signature : TokenAsync sdk String) :=
    Returning.after fun _ => Returning.after fun _ =>
      Returning.after fun _ => Returning.returned rfl
  refine Ensures.mono htail fun t' e he a ha => ?_
  obtain rfl := he a ha
  refine ⟨_, plan, rfl, rfl, rfl, rfl, List.mem_cons_self, hsent.mono fun x hx => ?_⟩
  exact List.mem_cons_of_mem _ (List.mem_append_left t' hx)

/-- The balances of a setup were read, and are right after the transfer. -/
def Balanced (s : Setup sdk) (t : TokenTranscript sdk) : Prop :=
  ⟨.request (.fetchBalance s.senderParty.keys s.senderParty.token),
      Except.ok (startingBalance - transferAmount)⟩ ∈ t ∧
    ⟨.request (.fetchBalance s.recipientParty.keys s.recipientParty.token),
      Except.ok transferAmount⟩ ∈ t

theorem Balanced.right {t' : TokenTranscript sdk} (h : Balanced s t') (t : TokenTranscript sdk) :
    Balanced s (t ++ t') := ⟨List.mem_append_right t h.1, List.mem_append_right t h.2⟩

theorem returning_reportBalances (sender recipient : ℕ) :
    Returning (fun _ _ => sender = startingBalance - transferAmount ∧ recipient = transferAmount)
      (reportBalances sender recipient : TokenAsync sdk Unit) := by
  refine Returning.after fun _ => Returning.after fun _ => ?_
  refine Returning.after fun _ => ?_
  split_ifs with hs hr
  · exact Returning.threw
  · exact Returning.threw
  · exact Returning.of_forall fun _ _ => ⟨not_not.mp hs, not_not.mp hr⟩

theorem returning_checkBalances :
    Returning (fun _ t => Balanced s t) (checkBalances s : TokenAsync sdk Unit) := by
  refine Returning.attemptBoth.bind ?_
  rintro ⟨sender, recipient⟩ _ rfl
  refine Ensures.mono (returning_reportBalances sender recipient) fun t e he a ha => ?_
  obtain ⟨rfl, rfl⟩ := he a ha
  exact ⟨List.mem_cons_self, List.mem_cons_of_mem _ List.mem_cons_self⟩

/-- The transfer of a setup was sent, and its balances were right after that. -/
def TransfersOnce (t : TokenTranscript sdk) : Prop :=
  ∃ s signature before after, t = before ++ after ∧ Transferred s signature before ∧
    Balanced s after

theorem TransfersOnce.right {t' : TokenTranscript sdk} (h : TransfersOnce t')
    (t : TokenTranscript sdk) : TransfersOnce (t ++ t') := by
  obtain ⟨s, signature, before, after, rfl, hs, hb⟩ := h
  exact ⟨s, signature, t ++ before, after, (List.append_assoc t before after).symm,
    hs.mono (List.subset_append_right t before), hb⟩

theorem returning_confidentialTransfer :
    Returning (fun _ t => TransfersOnce t) (confidentialTransfer : TokenAsync sdk Unit) := by
  refine Returning.right (fun _ t t' h => h.right t) fun s => ?_
  refine returning_transfer.bind fun signature t ht => ?_
  have hback : Returning (fun _ t => Balanced s t) (showSent signature >>= fun _ =>
      applyPendingBalance s.payer s.recipientParty >>= fun _ => checkBalances s) :=
    Returning.right (fun _ t t' h => h.right t) fun _ =>
      Returning.right (fun _ t t' h => h.right t) fun _ => returning_checkBalances
  exact Ensures.mono hback fun t' e he a ha => ⟨s, signature, t, t', rfl, ht, he a ha⟩

/-- However the cluster and the libraries answer, the program sends at most eight
transactions, one after another, each over a blockhash read for it and confirmed before
anything else is asked. It returns only when the eighth is confirmed. Then the plan of the
transfer was sent as one of them, and the balances read after that are right. -/
theorem confidentialTransfer_inTurn :
    Ensures (confidentialTransfer : TokenAsync sdk Unit) fun t e =>
      InTurn t ∧ t.countP isSend ≤ 8 ∧
        (e = .returned () → t.countP isSend = 8 ∧ TransfersOnce t) := by
  refine Ensures.mono
    (confidentialTransfer_advances.inTurn.and returning_confidentialTransfer) fun t e he => ?_
  obtain ⟨⟨hturn, hle, heq⟩, honce⟩ := he
  exact ⟨hturn, hle, fun hret => ⟨heq () hret, honce () hret⟩⟩

end Returning

end TransactionV1.Web3
