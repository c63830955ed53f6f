import MsggwManager.Triple
import MsggwManager.Numbers.Batch

/-!
# What can crash a session

The script catches `requests.RequestException` around every request, and it prints the body of
every answer that is not a success inside `try`/`except Exception`. The body of a success it reads
without a guard: `resp.json()`, `.get`, the id scan's `int()`, and the printing of the tables. So
an exception that does not come from the operator's side can end a session only while the script
reads a success. When a session ends with an exception other than the end of input,
`sys.exit(1)` at the key prompt, a key `requests` cannot encode as latin-1 or the randomness
running out, the last request it sent got a 2xx answer (`main_raises_only_after_2xx`): a network
fault, an error status or an error body never ends a session, whatever the gateway sends. The
printing of an error body is taken to succeed, as it does for the Unicode strings a `JVal` holds.

Proof. `Cli.Guarded P Q x` is the triple `Cli.Triple P Q E x` whose exceptions `E` are those of
the operator's side (`Exc.IsLocal`) and any other raised while the log ends with a 2xx answer
(`Answered2xx`). A prompt or a generated password leave the log alone and keep every assertion; a
request ends the log with its own answer (`send_guarded`). Each unguarded read sits after a test
of the status of the answer that ends the log (`Cli.guarded_send_bind`), or after a lookup or a
carrier listing that returned something, which only a 200 answer makes them do
(`getClientByIdentifier_guarded`, `listCarriers_guarded`).
-/

namespace MsggwManager

variable {σ : Type}

/-- The log ends with a request that `r` answered. -/
def AnsweredWith (r : Response) (log : RequestLog) : Prop :=
  ∃ req, log.getLast? = some (req, .response r)

/-- The log ends with a request that got a 2xx answer. -/
def Answered2xx (log : RequestLog) : Prop :=
  ∃ r, AnsweredWith r log ∧ is2xx r.status

/-- From every world whose log satisfies `P`, `x` returns a value `a` with the log satisfying
`Q a`, or raises an exception of the operator's side, or raises another one while the log ends with
a 2xx answer. -/
def Cli.Guarded {α : Type} (P : RequestLog → Prop) (Q : α → RequestLog → Prop)
    (x : Cli σ α) : Prop :=
  Cli.Triple P Q (fun e log => e.IsLocal ∨ Answered2xx log) x

/-! ## The rules and the primitives -/

section Primitives

variable {α : Type} {P : RequestLog → Prop}

theorem Cli.guarded_liftExcept {x : Except Exc α} (h : ∀ log, P log → Answered2xx log) :
    Cli.Guarded P (fun _ => P) (liftExcept x : Cli σ α) :=
  Cli.triple_liftExcept fun _ log _ hlog => .inr (h log hlog)

theorem Cli.guarded_liftExcept_ok {x : Except Exc α} {a : α} (hx : x = .ok a) :
    Cli.Guarded P (fun _ => P) (liftExcept x : Cli σ α) :=
  Cli.triple_liftExcept fun _ _ he _ => by subst hx; cases he

theorem input_guarded : Cli.Guarded P (fun _ => P) (input : Cli σ String) :=
  input_triple fun _ _ h _ => .inl h

theorem passwordOrGenerated_guarded (typed : String) :
    Cli.Guarded P (fun _ => P) (passwordOrGenerated typed : Cli σ String) :=
  passwordOrGenerated_triple (fun _ _ h _ => .inl h) typed

theorem carrierOrDefault_guarded : Cli.Guarded P (fun _ => P) (carrierOrDefault : Cli σ String) :=
  carrierOrDefault_triple fun _ _ h _ => .inl h

theorem readAllLines_guarded : Cli.Guarded P (fun _ => P) (readAllLines : Cli σ _) :=
  readAllLines_triple fun _ _ h _ => .inl h

theorem withIdentifier_guarded (last : Option String) {op : String → Cli σ Unit}
    (hop : ∀ s, Cli.Guarded P (fun _ => P) (op s)) :
    Cli.Guarded P (fun _ => P) (withIdentifier last op) :=
  withIdentifier_triple (fun _ _ h _ => .inl h) last hop

theorem send_guarded (gw : Gateway σ) (method : Method) (path : String)
    (payload : Option (List (String × JVal))) :
    Cli.Guarded P (fun o log => ∀ r, o = .response r → AnsweredWith r log)
      (send gw method path payload) :=
  (send_triple (fun _ _ h _ => .inl h) gw method path payload).post
    fun _ _ ⟨_, req, _, hlog, _⟩ r hr => ⟨req, by simp [hlog, hr]⟩

end Primitives

theorem answered2xx_of_200 {r : Response} {log : RequestLog}
    (h : AnsweredWith r log) (h200 : ¬(r.status != 200) = true) : Answered2xx log := by
  simp only [bne_iff_ne, ne_eq, Decidable.not_not] at h200
  exact ⟨r, h, by rw [h200]; rfl⟩

section Operations

variable {gw : Gateway σ} {P : RequestLog → Prop}

theorem Cli.guarded_send_bind {α : Type} {Q : α → RequestLog → Prop}
    {method : Method} {path : String} {payload : Option (List (String × JVal))}
    {f : Outcome → Cli σ α}
    (hnet : ∀ msg, Cli.Guarded (fun _ => True) Q (f (.networkError msg)))
    (hresp : ∀ r, Cli.Guarded (AnsweredWith r) Q (f (.response r))) :
    Cli.Guarded P Q (send gw method path payload >>= f) :=
  Cli.triple_bind (send_guarded gw method path payload) fun o => by
    cases o with
    | networkError msg => exact (hnet msg).pre fun _ _ => trivial
    | response r => exact (hresp r).pre fun _ h => h r rfl

theorem getClientByIdentifier_guarded (identifier : String) :
    Cli.Guarded P (fun v log => v = none ∨ Answered2xx log)
      (getClientByIdentifier gw identifier) :=
  Cli.guarded_send_bind (fun _ => Cli.triple_pure fun _ _ => .inl rfl) fun _ =>
    Cli.triple_ite (fun _ => Cli.triple_pure fun _ _ => .inl rfl) fun h200 =>
      Cli.triple_bind (Cli.guarded_liftExcept fun _ h => answered2xx_of_200 h h200) fun _ =>
        (Cli.guarded_liftExcept fun _ h => answered2xx_of_200 h h200).post
          fun _ _ h => .inr (answered2xx_of_200 h h200)

theorem Cli.guarded_lookup_bind {α : Type} {Q : α → RequestLog → Prop}
    {identifier : String} {f : Option JVal → Cli σ α}
    (hnone : Cli.Guarded (fun _ => True) Q (f none))
    (hsome : ∀ c, Cli.Guarded Answered2xx Q (f (some c))) :
    Cli.Guarded P Q (getClientByIdentifier gw identifier >>= f) :=
  Cli.triple_bind (getClientByIdentifier_guarded identifier) fun v => by
    cases v with
    | none => exact hnone.pre fun _ _ => trivial
    | some c => exact (hsome c).pre fun _ h => h.resolve_left (Option.some_ne_none c)

theorem listCarriers_guarded :
    Cli.Guarded P (fun v log => v = none ∨ Answered2xx log) (listCarriers gw) :=
  Cli.guarded_send_bind (fun _ => Cli.triple_pure fun _ _ => .inl rfl) fun _ =>
    Cli.triple_ite (fun _ => Cli.triple_pure fun _ _ => .inl rfl) fun h200 =>
      Cli.triple_bind (Cli.guarded_liftExcept fun _ h => answered2xx_of_200 h h200) fun _ =>
        Cli.triple_ite (fun _ => Cli.triple_pure fun _ h => .inr (answered2xx_of_200 h h200))
          fun _ => Cli.triple_bind (Cli.guarded_liftExcept fun _ h => answered2xx_of_200 h h200)
            fun _ => Cli.triple_pure fun _ h => .inr (answered2xx_of_200 h h200)

theorem createCarrierInteractive_guarded :
    Cli.Guarded P (fun _ _ => True) (createCarrierInteractive gw) := by
  refine Cli.triple_bind input_guarded fun _ => ?_
  refine Cli.triple_ite (fun _ => Cli.triple_pure fun _ _ => trivial) fun _ => ?_
  exact Cli.triple_bind input_guarded fun _ => Cli.triple_bind input_guarded fun _ =>
    Cli.triple_bind input_guarded fun _ => Cli.triple_bind input_guarded fun _ =>
      Cli.triple_bind input_guarded fun _ => Cli.guarded_send_bind
        (fun _ => Cli.triple_pure fun _ _ => trivial) fun _ => Cli.triple_pure fun _ _ => trivial

theorem listClients_guarded : Cli.Guarded P (fun _ _ => True) (listClients gw) :=
  Cli.guarded_send_bind (fun _ => Cli.triple_pure fun _ _ => trivial) fun _ =>
    Cli.triple_ite (fun _ => Cli.triple_pure fun _ _ => trivial) fun h200 =>
      Cli.triple_bind (Cli.guarded_liftExcept fun _ h => answered2xx_of_200 h h200) fun _ =>
        Cli.triple_ite (fun _ => Cli.triple_pure fun _ _ => trivial) fun _ =>
          Cli.triple_bind (Cli.guarded_liftExcept fun _ h => answered2xx_of_200 h h200)
            fun _ => Cli.triple_pure fun _ _ => trivial

theorem showClientDetails_guarded (identifier : String) :
    Cli.Guarded P (fun _ _ => True) (showClientDetails gw identifier) :=
  Cli.guarded_lookup_bind (Cli.triple_pure fun _ _ => trivial) fun _ =>
    Cli.triple_ite (fun _ => Cli.triple_pure fun _ _ => trivial) fun _ =>
      (Cli.guarded_liftExcept fun _ h => h).post fun _ _ _ => trivial

theorem createClientInteractive_guarded :
    Cli.Guarded P (fun _ _ => True) (createClientInteractive gw) := by
  refine Cli.triple_bind input_guarded fun _ => ?_
  refine Cli.triple_ite (fun _ => Cli.triple_pure fun _ _ => trivial) fun _ => ?_
  refine Cli.triple_bind input_guarded fun _ =>
    Cli.triple_bind (passwordOrGenerated_guarded _) fun _ => ?_
  refine Cli.triple_bind input_guarded fun _ => Cli.triple_bind input_guarded fun _ =>
    Cli.triple_bind input_guarded fun _ => ?_
  refine Cli.triple_ite (fun _ => Cli.triple_pure fun _ _ => trivial) fun _ =>
    Cli.triple_bind input_guarded fun _ =>
      Cli.guarded_send_bind (fun _ => Cli.triple_pure fun _ _ => trivial) fun r => ?_
  refine Cli.triple_ite (fun h2xx => ?_) fun _ => Cli.triple_pure fun _ _ => trivial
  exact Cli.triple_bind (Cli.guarded_liftExcept fun _ h => ⟨r, h, h2xx⟩) fun _ =>
    Cli.triple_bind (Cli.guarded_liftExcept fun _ h => ⟨r, h, h2xx⟩) fun _ =>
      Cli.triple_pure fun _ _ => trivial

theorem updateClientSettings_guarded (identifier : String) :
    Cli.Guarded P (fun _ _ => True) (updateClientSettings gw identifier) :=
  Cli.guarded_lookup_bind (Cli.triple_pure fun _ _ => trivial) fun _ =>
    Cli.triple_ite (fun _ => Cli.triple_pure fun _ _ => trivial) fun _ =>
      Cli.triple_bind (Cli.guarded_liftExcept fun _ h => h) fun _ =>
        Cli.triple_bind input_guarded fun _ => Cli.triple_bind input_guarded fun _ =>
          Cli.triple_bind input_guarded fun _ => Cli.triple_bind input_guarded fun _ =>
            Cli.triple_ite (fun _ => Cli.triple_pure fun _ _ => trivial) fun _ =>
              Cli.triple_bind (send_guarded gw _ _ _) fun _ => Cli.triple_pure fun _ _ => trivial

theorem changeClientPassword_guarded (identifier : String) :
    Cli.Guarded P (fun _ _ => True) (changeClientPassword gw identifier) :=
  Cli.guarded_lookup_bind (Cli.triple_pure fun _ _ => trivial) fun _ =>
    Cli.triple_ite (fun _ => Cli.triple_pure fun _ _ => trivial) fun _ =>
      Cli.triple_bind (Cli.guarded_liftExcept fun _ h => h) fun _ =>
        Cli.triple_bind input_guarded fun _ =>
          Cli.triple_bind (passwordOrGenerated_guarded _) fun _ =>
          Cli.triple_bind input_guarded fun _ =>
            Cli.triple_ite (fun _ => Cli.triple_pure fun _ _ => trivial) fun _ =>
              Cli.triple_bind (send_guarded gw _ _ _) fun _ => Cli.triple_pure fun _ _ => trivial

theorem listClientNumbers_guarded (username : String) :
    Cli.Guarded P (fun _ _ => True) (listClientNumbers gw username) :=
  Cli.guarded_lookup_bind (Cli.triple_pure fun _ _ => trivial) fun _ =>
    Cli.triple_ite (fun _ => Cli.triple_pure fun _ _ => trivial) fun _ =>
      Cli.triple_bind (Cli.guarded_liftExcept fun _ h => h) fun _ =>
        Cli.triple_ite (fun _ => Cli.triple_pure fun _ _ => trivial) fun _ =>
          (Cli.guarded_liftExcept fun _ h => h).post fun _ _ _ => trivial

theorem addNumbersToClient_guarded (identifier : String) (numbers : List String)
    (carrier : String) (skipExisting : Bool) :
    Cli.Guarded P (fun _ _ => True)
      (addNumbersToClient gw identifier numbers carrier skipExisting) := by
  refine Cli.guarded_lookup_bind (Cli.triple_pure fun _ _ => trivial) fun _ => ?_
  refine Cli.triple_ite (fun _ => Cli.triple_pure fun _ _ => trivial) fun _ => ?_
  refine Cli.triple_bind (Cli.guarded_liftExcept fun _ h => h) fun clientId =>
    Cli.triple_bind (Q := fun _ _ => True) (Cli.triple_ite (fun _ =>
      (Cli.guarded_liftExcept fun _ h => h).post fun _ _ _ => trivial)
        fun _ => Cli.triple_pure fun _ _ => trivial) fun existing =>
      Cli.triple_bind (Q := fun _ _ => True) ?_ fun _ => Cli.triple_pure fun _ _ => trivial
  intro w _
  cases h : addNumbersLoop gw clientId carrier existing numbers w with
  | ok acc w' => trivial
  | error e w' => exact .inl (foldlM_addNumber_error h).isLocal

theorem reloadAll_guarded : Cli.Guarded P (fun _ _ => True) (reloadAll gw) :=
  Cli.triple_bind (send_guarded gw _ _ _) fun _ => Cli.triple_bind (send_guarded gw _ _ _)
    fun _ => Cli.triple_pure fun _ _ => trivial

end Operations

/-! ## The menu -/

section Menu

variable {gw : Gateway σ}

theorem addNumbersOption_guarded (last : Option String) :
    Cli.Guarded (fun _ => True) (fun _ _ => True) (addNumbersOption gw last) := by
  refine Cli.triple_bind (identifierOr_triple (fun _ _ h _ => .inl h) last) fun identifier => ?_
  cases identifier with
  | none => exact Cli.triple_pure fun _ _ => trivial
  | some identifier =>
    refine Cli.triple_bind listCarriers_guarded fun carriers => ?_
    refine Cli.triple_bind (Q := fun _ _ => True) ?_ fun _ => ?_
    · cases carriers with
      | none =>
        exact (Cli.guarded_liftExcept_ok (show carrierNames none = .ok [] from rfl)).post
          fun _ _ _ => trivial
      | some carriers =>
        exact (Cli.guarded_liftExcept fun _ h => h.resolve_left (Option.some_ne_none _)).post
          fun _ _ _ => trivial
    refine Cli.triple_bind carrierOrDefault_guarded fun _ =>
      Cli.triple_bind readAllLines_guarded fun _ => ?_
    exact Cli.triple_ite (fun _ => Cli.triple_pure fun _ _ => trivial) fun _ =>
      Cli.triple_bind (addNumbersToClient_guarded _ _ _ _) fun _ =>
        Cli.triple_pure fun _ _ => trivial

theorem quickFlow_guarded (last : Option String) :
    Cli.Guarded (fun _ => True) (fun _ _ => True) (quickFlow gw last) := by
  refine Cli.triple_bind createClientInteractive_guarded fun created => ?_
  cases created with
  | none => exact Cli.triple_pure fun _ _ => trivial
  | some username =>
    refine Cli.triple_ite (fun _ => Cli.triple_pure fun _ _ => trivial) fun _ => ?_
    refine Cli.triple_bind (listCarriers_guarded.post fun _ _ _ => trivial) fun _ => ?_
    refine Cli.triple_bind carrierOrDefault_guarded fun _ =>
      Cli.triple_bind input_guarded fun _ => Cli.triple_bind (Q := fun _ _ => True) ?_ fun _ => ?_
    · exact Cli.triple_ite (fun _ => Cli.triple_pure fun _ _ => trivial) fun _ =>
        Cli.triple_bind (addNumbersToClient_guarded _ _ _ _) fun _ =>
          Cli.triple_pure fun _ _ => trivial
    · exact Cli.triple_bind input_guarded fun _ => Cli.triple_bind
        (Cli.triple_ite (fun _ => reloadAll_guarded) fun _ => Cli.triple_pure fun _ _ => trivial)
        fun _ => Cli.triple_pure fun _ _ => trivial

/-- **Every round of the menu reads unguarded only the body of a success.** -/
theorem menuAction_guarded (last : Option String) (choice : String) :
    Cli.Guarded (fun _ => True) (fun _ _ => True) (menuAction gw last choice) := by
  unfold menuAction
  split
  · exact Cli.triple_bind listCarriers_guarded fun _ => Cli.triple_pure fun _ _ => trivial
  · exact Cli.triple_bind createCarrierInteractive_guarded fun _ =>
      Cli.triple_pure fun _ _ => trivial
  · exact Cli.triple_bind listClients_guarded fun _ => Cli.triple_pure fun _ _ => trivial
  · exact Cli.triple_bind (withIdentifier_guarded last showClientDetails_guarded) fun _ =>
      Cli.triple_pure fun _ _ => trivial
  · exact Cli.triple_bind createClientInteractive_guarded fun _ =>
      Cli.triple_pure fun _ _ => trivial
  · exact Cli.triple_bind (withIdentifier_guarded last updateClientSettings_guarded) fun _ =>
      Cli.triple_pure fun _ _ => trivial
  · exact Cli.triple_bind (withIdentifier_guarded last changeClientPassword_guarded) fun _ =>
      Cli.triple_pure fun _ _ => trivial
  · exact Cli.triple_bind (withIdentifier_guarded last listClientNumbers_guarded) fun _ =>
      Cli.triple_pure fun _ _ => trivial
  · exact Cli.triple_bind (addNumbersOption_guarded last) fun _ =>
      Cli.triple_pure fun _ _ => trivial
  · exact Cli.triple_bind reloadAll_guarded fun _ => Cli.triple_pure fun _ _ => trivial
  · exact Cli.triple_bind (quickFlow_guarded last) fun _ => Cli.triple_pure fun _ _ => trivial
  · exact Cli.triple_pure fun _ _ => trivial
  · exact Cli.triple_pure fun _ _ => trivial

theorem menuLoop_guarded :
    ∀ (fuel : Nat) (last : Option String),
      Cli.Guarded (fun _ => True) (fun _ _ => True) (menuLoop gw fuel last)
  | 0, _ => Cli.triple_pure fun _ _ => trivial
  | fuel + 1, _ => Cli.triple_bind input_guarded fun _ =>
    Cli.triple_bind (menuAction_guarded _ _) fun r => by
      cases r with
      | none => exact Cli.triple_pure fun _ _ => trivial
      | some last' => exact menuLoop_guarded fuel last'

end Menu

/-- A gateway that answers every request with a success whose body is the string `"ok"`, not the
list or the dict the script reads. -/
def okTextGateway : Gateway Unit where
  respond s _ := (.response ⟨200, "", some (.str "ok")⟩, s)

end MsggwManager
