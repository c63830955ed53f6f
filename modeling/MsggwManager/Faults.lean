import MsggwManager.Session

/-!
# A gateway that cannot be reached never ends a session

Every request of the script sits in a `try` that catches `requests.RequestException`, prints a
message and gives an empty result. So against a gateway that answers every request with a network
fault (`Gateway.Unreachable`), whatever the operator types, a session ends only from the
operator's side: `main()` returns after `0` or Ctrl+C, or the session stops at the end of input,
at the key prompt's `sys.exit(1)`, on a key `requests` cannot encode as latin-1, or, in the model,
when the randomness runs out (`main_survives_unreachable_gateway`).

Proof. `Cli.EndsIn E Q x` says that from every world `x` returns a value in `Q` or raises an
exception in `E`. It holds of `pure`, `input` and `generate_password`, and is kept by `bind` and
`if`. A request raises only where it cannot go out, and against an unreachable gateway it returns a
network fault (`send_offline`), so the branches that read a response never run: the lookup and
the carrier listing return `None`, and each operation, each round of the menu and the loop raise
only the operator's exceptions (`Exc.IsLocal`).
-/

namespace MsggwManager

variable {σ : Type}

/-- The gateway answers every request, from every state, with a network fault. -/
def Gateway.Unreachable (gw : Gateway σ) : Prop :=
  ∀ s req, ∃ msg, (gw.respond s req).1 = .networkError msg

/-- The exceptions of the operator's side: the end of input and Ctrl+C at a prompt, `sys.exit(1)`
at the key prompt, a key that is not latin-1, and the randomness running out. -/
def Exc.IsLocal : Exc → Prop
  | .eofError | .keyboardInterrupt | .systemExit 1 | .unicodeEncodeError | .entropyExhausted => True
  | _ => False

/-- From every world, `x` returns a value in `Q` or raises an exception in `E`. -/
def Cli.EndsIn {α : Type} (E : Exc → Prop) (Q : α → Prop) (x : Cli σ α) : Prop :=
  ∀ w, match x w with
    | .ok a _ => Q a
    | .error e _ => E e

/-! ## The rules -/

section Rules

variable {E : Exc → Prop} {α β : Type} {Q : α → Prop}

theorem Cli.endsIn_pure {a : α} (h : Q a) : Cli.EndsIn E Q (pure a : Cli σ α) := fun _ => h

theorem Cli.endsIn_bind {R : β → Prop} {x : Cli σ α} {f : α → Cli σ β} (hx : Cli.EndsIn E Q x)
    (hf : ∀ a, Q a → Cli.EndsIn E R (f a)) : Cli.EndsIn E R (x >>= f) := by
  intro w
  have h := hx w
  rw [Cli.bind_apply]
  cases hw : x w with
  | ok a w' => rw [hw] at h; exact hf a h w'
  | error e w' => rw [hw] at h; exact h

theorem Cli.endsIn_ite {c : Prop} [Decidable c] {x y : Cli σ α} (hx : c → Cli.EndsIn E Q x)
    (hy : ¬c → Cli.EndsIn E Q y) : Cli.EndsIn E Q (if c then x else y) := by
  split
  next h => exact hx h
  next h => exact hy h

theorem Cli.endsIn_liftExcept_ok {x : Except Exc α} {a : α} (hx : x = .ok a) (h : Q a) :
    Cli.EndsIn E Q (liftExcept x : Cli σ α) := by
  subst hx
  exact Cli.endsIn_pure h

end Rules

/-! ## The operator's side -/

theorem Exc.IsLocal.eq_cases {e : Exc} (h : e.IsLocal) :
    e = .eofError ∨ e = .keyboardInterrupt ∨ e = .systemExit 1 ∨ e = .unicodeEncodeError ∨
      e = .entropyExhausted := by
  unfold Exc.IsLocal at h
  split at h <;> simp_all

theorem Exc.IsSendStop.isLocal {env : Env} {e : Exc} (h : e.IsSendStop env) : e.IsLocal := by
  rcases h with ⟨-, h⟩ | ⟨rfl, -⟩
  · unfold Exc.IsAuthStop at h
    split at h <;> trivial
  · trivial

theorem input_endsIn : Cli.EndsIn Exc.IsLocal (fun _ => True) (input : Cli σ String) := by
  intro w
  cases h : input w with
  | ok s w' => trivial
  | error e w' => obtain ⟨-, rfl | rfl⟩ := input_error h <;> trivial

theorem generatePassword_endsIn (length : Nat) :
    Cli.EndsIn Exc.IsLocal (fun _ => True) (generatePassword length : Cli σ String) := by
  intro w
  unfold generatePassword
  cases generateFrom length (w.entropy.length + 1) w.entropy <;> trivial

theorem passwordOrGenerated_endsIn (typed : String) :
    Cli.EndsIn Exc.IsLocal (fun _ => True) (passwordOrGenerated typed : Cli σ String) :=
  Cli.endsIn_ite (fun _ => generatePassword_endsIn 24) fun _ => Cli.endsIn_pure trivial

theorem identifierOr_endsIn (last : Option String) :
    Cli.EndsIn Exc.IsLocal (fun _ => True) (identifierOr last : Cli σ _) :=
  Cli.endsIn_bind input_endsIn fun _ _ => Cli.endsIn_pure trivial

theorem carrierOrDefault_endsIn :
    Cli.EndsIn Exc.IsLocal (fun _ => True) (carrierOrDefault : Cli σ String) :=
  Cli.endsIn_bind input_endsIn fun _ _ => Cli.endsIn_pure trivial

theorem withIdentifier_endsIn (last : Option String) {op : String → Cli σ Unit}
    (hop : ∀ s, Cli.EndsIn Exc.IsLocal (fun _ => True) (op s)) :
    Cli.EndsIn Exc.IsLocal (fun _ => True) (withIdentifier last op) :=
  Cli.endsIn_bind (identifierOr_endsIn last) fun identifier _ => by
    cases identifier with
    | none => exact Cli.endsIn_pure trivial
    | some s => exact hop s

theorem readLines_endsIn :
    ∀ (fuel : Nat) (lines : List String),
      Cli.EndsIn Exc.IsLocal (fun _ => True) (readLines lines fuel : Cli σ _)
  | 0, _ => Cli.endsIn_pure trivial
  | fuel + 1, lines => fun w => by
    have hin := input_endsIn w
    rw [readLines_succ]
    cases h : input w with
    | ok line w' => exact readLines_endsIn fuel _ w'
    | error e w' => rw [h] at hin; cases e <;> trivial

/-! ## Against an unreachable gateway -/

section Offline

variable {gw : Gateway σ} (hgw : gw.Unreachable)
include hgw

theorem send_offline (method : Method) (path : String) (payload : Option (List (String × JVal))) :
    Cli.EndsIn Exc.IsLocal (fun o => ∃ msg, o = .networkError msg)
      (send gw method path payload) := by
  intro w
  cases h : send gw method path payload w with
  | ok o w' =>
    obtain ⟨auth, rest, ho, -⟩ := send_ok h
    rw [← ho]
    exact hgw _ _
  | error e w' => exact (send_error h).2.isLocal

theorem Cli.endsIn_send_bind {α : Type} {Q : α → Prop} {method : Method} {path : String}
    {payload : Option (List (String × JVal))} {f : Outcome → Cli σ α}
    (hf : ∀ msg, Cli.EndsIn Exc.IsLocal Q (f (.networkError msg))) :
    Cli.EndsIn Exc.IsLocal Q (send gw method path payload >>= f) :=
  Cli.endsIn_bind (send_offline hgw method path payload) fun _ ⟨msg, ho⟩ => ho ▸ hf msg

theorem getClientByIdentifier_offline (identifier : String) :
    Cli.EndsIn Exc.IsLocal (· = none) (getClientByIdentifier gw identifier) :=
  Cli.endsIn_send_bind hgw fun _ => Cli.endsIn_pure rfl

theorem Cli.endsIn_lookup_bind {α : Type} {Q : α → Prop} {identifier : String}
    {f : Option JVal → Cli σ α} (hf : Cli.EndsIn Exc.IsLocal Q (f none)) :
    Cli.EndsIn Exc.IsLocal Q (getClientByIdentifier gw identifier >>= f) :=
  Cli.endsIn_bind (getClientByIdentifier_offline hgw identifier) fun _ ha => ha ▸ hf

/-! ## The operations -/

theorem listCarriers_offline : Cli.EndsIn Exc.IsLocal (· = none) (listCarriers gw) :=
  Cli.endsIn_send_bind hgw fun _ => Cli.endsIn_pure rfl

theorem createCarrierInteractive_offline :
    Cli.EndsIn Exc.IsLocal (fun _ => True) (createCarrierInteractive gw) := by
  refine Cli.endsIn_bind input_endsIn fun _ _ => ?_
  refine Cli.endsIn_ite (fun _ => Cli.endsIn_pure trivial) fun _ => ?_
  exact Cli.endsIn_bind input_endsIn fun _ _ => Cli.endsIn_bind input_endsIn fun _ _ =>
    Cli.endsIn_bind input_endsIn fun _ _ => Cli.endsIn_bind input_endsIn fun _ _ =>
      Cli.endsIn_bind input_endsIn fun _ _ =>
        Cli.endsIn_send_bind hgw fun _ => Cli.endsIn_pure trivial

theorem listClients_offline : Cli.EndsIn Exc.IsLocal (fun _ => True) (listClients gw) :=
  Cli.endsIn_send_bind hgw fun _ => Cli.endsIn_pure trivial

theorem createClientInteractive_offline :
    Cli.EndsIn Exc.IsLocal (fun _ => True) (createClientInteractive gw) := by
  refine Cli.endsIn_bind input_endsIn fun _ _ => ?_
  refine Cli.endsIn_ite (fun _ => Cli.endsIn_pure trivial) fun _ => ?_
  refine Cli.endsIn_bind input_endsIn fun _ _ =>
    Cli.endsIn_bind (passwordOrGenerated_endsIn _) fun _ _ => ?_
  refine Cli.endsIn_bind input_endsIn fun _ _ => Cli.endsIn_bind input_endsIn fun _ _ =>
    Cli.endsIn_bind input_endsIn fun _ _ => ?_
  exact Cli.endsIn_ite (fun _ => Cli.endsIn_pure trivial) fun _ =>
    Cli.endsIn_bind input_endsIn fun _ _ =>
      Cli.endsIn_send_bind hgw fun _ => Cli.endsIn_pure trivial

theorem addNumbersToClient_offline (identifier : String) (numbers : List String)
    (carrier : String) (skipExisting : Bool) :
    Cli.EndsIn Exc.IsLocal (fun _ => True)
      (addNumbersToClient gw identifier numbers carrier skipExisting) :=
  Cli.endsIn_lookup_bind hgw (Cli.endsIn_pure trivial)

theorem showClientDetails_offline (identifier : String) :
    Cli.EndsIn Exc.IsLocal (fun _ => True) (showClientDetails gw identifier) :=
  Cli.endsIn_lookup_bind hgw (Cli.endsIn_pure trivial)

theorem updateClientSettings_offline (identifier : String) :
    Cli.EndsIn Exc.IsLocal (fun _ => True) (updateClientSettings gw identifier) :=
  Cli.endsIn_lookup_bind hgw (Cli.endsIn_pure trivial)

theorem changeClientPassword_offline (identifier : String) :
    Cli.EndsIn Exc.IsLocal (fun _ => True) (changeClientPassword gw identifier) :=
  Cli.endsIn_lookup_bind hgw (Cli.endsIn_pure trivial)

theorem listClientNumbers_offline (username : String) :
    Cli.EndsIn Exc.IsLocal (fun _ => True) (listClientNumbers gw username) :=
  Cli.endsIn_lookup_bind hgw (Cli.endsIn_pure trivial)

theorem reloadAll_offline : Cli.EndsIn Exc.IsLocal (fun _ => True) (reloadAll gw) :=
  Cli.endsIn_send_bind hgw fun _ => Cli.endsIn_send_bind hgw fun _ => Cli.endsIn_pure trivial

/-! ## The menu -/

theorem addNumbersOption_offline (last : Option String) :
    Cli.EndsIn Exc.IsLocal (fun _ => True) (addNumbersOption gw last) := by
  refine Cli.endsIn_bind (identifierOr_endsIn last) fun identifier _ => ?_
  cases identifier with
  | none => exact Cli.endsIn_pure trivial
  | some identifier =>
    refine Cli.endsIn_bind (listCarriers_offline hgw) fun carriers hnone => ?_
    subst hnone
    refine Cli.endsIn_bind (Q := fun _ => True)
      (Cli.endsIn_liftExcept_ok (show carrierNames none = .ok [] from rfl) trivial) fun _ _ => ?_
    refine Cli.endsIn_bind carrierOrDefault_endsIn fun _ _ =>
      Cli.endsIn_bind (fun w => readLines_endsIn _ [] w) fun _ _ => ?_
    exact Cli.endsIn_ite (fun _ => Cli.endsIn_pure trivial) fun _ =>
      Cli.endsIn_bind (addNumbersToClient_offline hgw _ _ _ _) fun _ _ => Cli.endsIn_pure trivial

theorem quickFlow_offline (last : Option String) :
    Cli.EndsIn Exc.IsLocal (fun _ => True) (quickFlow gw last) := by
  refine Cli.endsIn_bind (createClientInteractive_offline hgw) fun created _ => ?_
  cases created with
  | none => exact Cli.endsIn_pure trivial
  | some username =>
    refine Cli.endsIn_ite (fun _ => Cli.endsIn_pure trivial) fun _ => ?_
    refine Cli.endsIn_bind (listCarriers_offline hgw) fun _ _ => ?_
    refine Cli.endsIn_bind carrierOrDefault_endsIn fun _ _ =>
      Cli.endsIn_bind input_endsIn fun _ _ => Cli.endsIn_bind (Q := fun _ => True) ?_ fun _ _ => ?_
    · exact Cli.endsIn_ite (fun _ => Cli.endsIn_pure trivial) fun _ =>
        Cli.endsIn_bind (addNumbersToClient_offline hgw _ _ _ _) fun _ _ => Cli.endsIn_pure trivial
    · exact Cli.endsIn_bind input_endsIn fun _ _ => Cli.endsIn_bind
        (Cli.endsIn_ite (fun _ => reloadAll_offline hgw) fun _ => Cli.endsIn_pure trivial)
        fun _ _ => Cli.endsIn_pure trivial

/-- **No round of the menu raises because of the gateway.** -/
theorem menuAction_offline (last : Option String) (choice : String) :
    Cli.EndsIn Exc.IsLocal (fun _ => True) (menuAction gw last choice) := by
  unfold menuAction
  split
  · exact Cli.endsIn_bind (listCarriers_offline hgw) fun _ _ => Cli.endsIn_pure trivial
  · exact Cli.endsIn_bind (createCarrierInteractive_offline hgw) fun _ _ => Cli.endsIn_pure trivial
  · exact Cli.endsIn_bind (listClients_offline hgw) fun _ _ => Cli.endsIn_pure trivial
  · exact Cli.endsIn_bind (withIdentifier_endsIn last (showClientDetails_offline hgw)) fun _ _ =>
      Cli.endsIn_pure trivial
  · exact Cli.endsIn_bind (createClientInteractive_offline hgw) fun _ _ => Cli.endsIn_pure trivial
  · exact Cli.endsIn_bind (withIdentifier_endsIn last (updateClientSettings_offline hgw)) fun _ _ =>
      Cli.endsIn_pure trivial
  · exact Cli.endsIn_bind (withIdentifier_endsIn last (changeClientPassword_offline hgw)) fun _ _ =>
      Cli.endsIn_pure trivial
  · exact Cli.endsIn_bind (withIdentifier_endsIn last (listClientNumbers_offline hgw)) fun _ _ =>
      Cli.endsIn_pure trivial
  · exact Cli.endsIn_bind (addNumbersOption_offline hgw last) fun _ _ => Cli.endsIn_pure trivial
  · exact Cli.endsIn_bind (reloadAll_offline hgw) fun _ _ => Cli.endsIn_pure trivial
  · exact Cli.endsIn_bind (quickFlow_offline hgw last) fun _ _ => Cli.endsIn_pure trivial
  · exact Cli.endsIn_pure trivial
  · exact Cli.endsIn_pure trivial

theorem menuLoop_offline :
    ∀ (fuel : Nat) (last : Option String),
      Cli.EndsIn Exc.IsLocal (fun _ => True) (menuLoop gw fuel last)
  | 0, _ => Cli.endsIn_pure trivial
  | fuel + 1, _ => Cli.endsIn_bind input_endsIn fun _ _ =>
    Cli.endsIn_bind (menuAction_offline hgw _ _) fun r _ => by
      cases r with
      | none => exact Cli.endsIn_pure trivial
      | some last' => exact menuLoop_offline fuel last'

end Offline

/-- **An unreachable gateway never ends a session.** Against a gateway that answers every request
with a network fault, whatever the operator types, `main()` returns (after `0` or Ctrl+C) or stops
at the end of input, at the key prompt's `sys.exit(1)`, on a key that is not latin-1, or when the
randomness runs out. -/
theorem main_survives_unreachable_gateway (gw : Gateway σ) (hgw : gw.Unreachable) (w : World σ) :
    ∀ e w', main gw w = .error e w' →
      e = .eofError ∨ e = .systemExit 1 ∨ e = .unicodeEncodeError ∨ e = .entropyExhausted := by
  intro e w' hrun
  have h := menuLoop_offline hgw (w.keys.length + 1) none w
  unfold main menu at hrun
  cases hloop : menuLoop gw (w.keys.length + 1) none w with
  | ok b w₁ => rw [hloop] at hrun; cases hrun
  | error e₁ w₁ =>
    rw [hloop] at h hrun
    rcases h.eq_cases with rfl | rfl | rfl | rfl | rfl <;> cases hrun
    exacts [.inl rfl, .inr (.inl rfl), .inr (.inr (.inl rfl)), .inr (.inr (.inr rfl))]

/-- A gateway that refuses every connection. -/
def refusingGateway : Gateway Unit where
  respond s _ := (.networkError "connection refused", s)

theorem main_survives_refusing_gateway :
    refusingGateway.Unreachable ∧
      ∀ e w', main refusingGateway ⟨⟨none, some "key"⟩, [.line "q", .line "b", .line "",
          .line "", .line "1", .line "addr", .line "", .line "", .line "12025550100", .line "",
          .line "9", .line "", .line "", .line "2025550101"], [], (), []⟩ = .error e w' →
        e = .eofError ∨ e = .systemExit 1 ∨ e = .unicodeEncodeError ∨ e = .entropyExhausted :=
  have hgw : refusingGateway.Unreachable := fun _ _ => ⟨_, rfl⟩
  ⟨hgw, main_survives_unreachable_gateway refusingGateway hgw _⟩

end MsggwManager
