import MsggwManager.Clients.Paths
import MsggwManager.Safety

/-!
# A gateway that answers as the script reads it

The script reads the body of a successful answer without a guard (`Crashes.lean`), so its printing,
`.get`s and scans crash on values of other shapes than it expects. This module writes down the
shapes it expects (`AnswersAsRead`): a 200 answer to `GET /carriers` is a list of carrier rows
(`carrierRow`), a 200 answer to `GET /clients` a list of client rows (`clientRow`, whose numbers
are `numberRow`s), and a 2xx answer to `POST /clients` a dict. Against every gateway that answers
so, whatever the operator types, a session raises only the operator's exceptions (a key that is
not latin-1 among them) and the `ValueError` of `int()` on an identifier that `isdigit` accepts and
`int` does not read (`main_raises_only_valueError`). The printing is taken to succeed, as it does
for the Unicode strings a `JVal` holds.

Proof. Each printing and each read of a row succeeds on a row of its shape (`renderCarriers_ok`,
`renderClients_ok`, `renderClientDetails_ok`, `renderNumberRows_ok`, `existingNumbers_ok`), and the
lookup's scans raise only `ValueError` (`findClient_error`) and return an item of the list. With
`Cli.EndsIn` from `Faults.lean`, a request returns an answer of the gateway to its method and path
(`send_answers`), so each unguarded read sits after a test that makes its body of the expected
shape, and each operation, round and session raises only `Exc.IsLocalOrInt`.
-/

namespace MsggwManager

/-! ## The shapes the script reads -/

namespace JVal

/-- `f"{v:<w}"` formats `v`: a string, an int or a bool. -/
def isScalar : JVal → Bool
  | .str _ | .num _ | .bool _ => true
  | _ => false

/-- `v > 0` compares `v` with `0`: an int or a bool. -/
def isNumeric : JVal → Bool
  | .num _ | .bool _ => true
  | _ => false

def isStr : JVal → Bool
  | .str _ => true
  | _ => false

def isObj : JVal → Bool
  | .obj _ => true
  | _ => false

/-- A list whose items satisfy `p`. -/
def isListOf (p : JVal → Bool) : JVal → Bool
  | .arr items => items.all p
  | _ => false

/-- `v` is a dict and `v.get(key, default)` satisfies `p`. -/
def fieldIs (v : JVal) (key : String) (default : JVal) (p : JVal → Bool) : Bool :=
  match v with
  | .obj fields => p ((fields.lookup key).getD default)
  | _ => false

theorem formatAligned_of_isScalar {v : JVal} (h : v.isScalar) : v.formatAligned = .ok () := by
  cases v <;> simp_all [isScalar, formatAligned]

theorem gtZero_of_isNumeric {v : JVal} (h : v.isNumeric) : ∃ b, v.gtZero = .ok b := by
  cases v <;> simp_all [isNumeric, gtZero]

theorem slice_of_isStr {v : JVal} (h : v.isStr) (n : Nat) : ∃ s, v.slice n = .ok (.str s) := by
  cases v <;> simp_all [isStr, slice]

theorem or_isScalar {v d : JVal} (h : !v.truthy || v.isScalar) (hd : d.isScalar) :
    (v.or d).isScalar := by
  unfold JVal.or
  cases hv : v.truthy <;> simp_all

theorem or_isStr {v d : JVal} (h : !v.truthy || v.isStr) (hd : d.isStr) : (v.or d).isStr := by
  unfold JVal.or
  cases hv : v.truthy <;> simp_all

theorem get_of_fieldIs {v : JVal} {key : String} {default : JVal} {p : JVal → Bool}
    (h : v.fieldIs key default p) : ∃ x, v.get key default = .ok x ∧ p x := by
  cases v <;> simp_all [fieldIs, get]

theorem isObj_of_fieldIs {v : JVal} {key : String} {default : JVal} {p : JVal → Bool}
    (h : v.fieldIs key default p) : ∃ fields, v = .obj fields := by
  cases v <;> simp_all [fieldIs]

end JVal

/-- A carrier of `GET /carriers` as `list_carriers` prints it: a dict whose `name` and `type` are
strings and whose limits are ints or bools, where present. -/
def carrierRow (c : JVal) : Bool :=
  c.fieldIs "name" (.str "") JVal.isStr && c.fieldIs "type" (.str "") JVal.isStr &&
    c.fieldIs "sms_limit" (.num 0) JVal.isNumeric && c.fieldIs "mms_limit" (.num 0) JVal.isNumeric

/-- A number of a client as the numbers table and the details print it: a dict whose `number` and
`carrier` format, whose `tag` and `group` format or are falsy, and whose limit is an int or a bool,
where present. -/
def numberRow (n : JVal) : Bool :=
  n.fieldIs "number" (.str "") JVal.isScalar && n.fieldIs "carrier" (.str "") JVal.isScalar &&
    n.fieldIs "tag" (.str "") (fun v => !v.truthy || v.isScalar) &&
    n.fieldIs "group" (.str "") (fun v => !v.truthy || v.isScalar) &&
    n.fieldIs "sms_limit" (.num 0) JVal.isNumeric

/-- A client of `GET /clients` as the script prints and reads it: a dict whose `username` and
`type` are strings, whose `name` is a string or falsy, whose limit is an int or a bool, whose
`web_settings` is a dict or falsy, and whose `numbers` is a list of `numberRow`s, where present. -/
def clientRow (c : JVal) : Bool :=
  c.fieldIs "username" (.str "") JVal.isStr &&
    c.fieldIs "name" .null (fun v => !v.truthy || v.isStr) &&
    c.fieldIs "type" (.str "legacy") JVal.isStr && c.fieldIs "sms_limit" (.num 0) JVal.isNumeric &&
    c.fieldIs "web_settings" .null (fun v => !v.truthy || v.isObj) &&
    c.fieldIs "numbers" (.arr []) (JVal.isListOf numberRow)

theorem isObj_of_clientRow {c : JVal} (h : clientRow c) : ∃ fields, c = .obj fields := by
  simp only [clientRow, Bool.and_eq_true] at h
  exact JVal.isObj_of_fieldIs h.1.1.1.1.1

theorem isObj_of_numberRow {n : JVal} (h : numberRow n) : ∃ fields, n = .obj fields := by
  simp only [numberRow, Bool.and_eq_true] at h
  exact JVal.isObj_of_fieldIs h.1.1.1.1

/-! ## Printing and reading rows of these shapes -/

theorem List.forM_except_ok {l : List JVal} {f : JVal → Except Exc Unit}
    (h : ∀ x ∈ l, f x = .ok ()) : l.forM f = .ok () := by
  induction l with
  | nil => rfl
  | cons x l ih =>
    simp only [List.forM, h x (List.mem_cons_self x l), bind, Except.bind]
    exact ih fun y hy => h y (List.mem_cons_of_mem x hy)

theorem List.mapM_except_ok {α : Type} {l : List JVal} {f : JVal → Except Exc α}
    (h : ∀ x ∈ l, ∃ y, f x = .ok y) : ∃ ys, l.mapM f = .ok ys := by
  induction l with
  | nil => exact ⟨[], rfl⟩
  | cons x l ih =>
    obtain ⟨y, hy⟩ := h x (List.mem_cons_self x l)
    obtain ⟨ys, hys⟩ := ih fun z hz => h z (List.mem_cons_of_mem x hz)
    exact ⟨y :: ys, by rw [List.mapM_cons, hy, hys]; rfl⟩

theorem renderCarrier_ok {c : JVal} (h : carrierRow c) : renderCarrier c = .ok () := by
  simp only [carrierRow, Bool.and_eq_true] at h
  obtain ⟨⟨⟨hname, htype⟩, hsms⟩, hmms⟩ := h
  obtain ⟨fields, rfl⟩ := JVal.isObj_of_fieldIs hname
  simp only [JVal.fieldIs] at hname htype hsms hmms
  obtain ⟨_, hn⟩ := JVal.slice_of_isStr hname 20
  obtain ⟨_, ht⟩ := JVal.slice_of_isStr htype 12
  obtain ⟨_, hs⟩ := JVal.gtZero_of_isNumeric hsms
  obtain ⟨_, hm⟩ := JVal.gtZero_of_isNumeric hmms
  simp [renderCarrier, JVal.get, hn, ht, hs, hm, bind, Except.bind, JVal.formatAligned]

/-- **`list_carriers` prints a list of carrier rows.** -/
theorem renderCarriers_ok {cs : List JVal} (h : cs.all carrierRow) :
    renderCarriers (.arr cs) = .ok () :=
  List.forM_except_ok fun c hc => renderCarrier_ok (List.all_eq_true.mp h c hc)

theorem renderClient_ok {c : JVal} (h : clientRow c) : renderClient c = .ok () := by
  simp only [clientRow, Bool.and_eq_true] at h
  obtain ⟨⟨⟨⟨⟨husername, hname⟩, htype⟩, hlimit⟩, -⟩, hnumbers⟩ := h
  obtain ⟨fields, rfl⟩ := JVal.isObj_of_fieldIs husername
  simp only [JVal.fieldIs] at husername hname htype hlimit hnumbers
  obtain ⟨_, hu⟩ := JVal.slice_of_isStr husername 18
  obtain ⟨_, hn⟩ := JVal.slice_of_isStr (JVal.or_isStr (d := .str "") hname rfl) 22
  obtain ⟨_, ht⟩ := JVal.slice_of_isStr htype 8
  obtain ⟨_, hl⟩ := JVal.gtZero_of_isNumeric hlimit
  obtain ⟨ns, hns⟩ : ∃ ns, (fields.lookup "numbers").getD (.arr []) = .arr ns := by
    revert hnumbers
    cases (fields.lookup "numbers").getD (.arr []) <;> simp [JVal.isListOf]
  simp [renderClient, JVal.get, hu, hn, ht, hl, hns, bind, Except.bind, JVal.formatAligned,
    JVal.len]

/-- **`list_clients` prints a list of client rows.** -/
theorem renderClients_ok {cs : List JVal} (h : cs.all clientRow) :
    renderClients (.arr cs) = .ok () :=
  List.forM_except_ok fun c hc => renderClient_ok (List.all_eq_true.mp h c hc)

theorem renderNumberDetail_ok {n : JVal} (h : numberRow n) : renderNumberDetail n = .ok () := by
  simp only [numberRow, Bool.and_eq_true] at h
  obtain ⟨⟨⟨⟨hnum, -⟩, -⟩, -⟩, hlimit⟩ := h
  obtain ⟨fields, rfl⟩ := JVal.isObj_of_fieldIs hnum
  simp only [JVal.fieldIs] at hlimit
  obtain ⟨_, hl⟩ := JVal.gtZero_of_isNumeric hlimit
  simp [renderNumberDetail, JVal.get, hl, bind, Except.bind, pure, Except.pure]

theorem renderNumberRow_ok {n : JVal} (h : numberRow n) : renderNumberRow n = .ok () := by
  simp only [numberRow, Bool.and_eq_true] at h
  obtain ⟨⟨⟨⟨hnum, hcarrier⟩, htag⟩, hgroup⟩, hlimit⟩ := h
  obtain ⟨fields, rfl⟩ := JVal.isObj_of_fieldIs hnum
  simp only [JVal.fieldIs] at hnum hcarrier htag hgroup hlimit
  obtain ⟨_, hl⟩ := JVal.gtZero_of_isNumeric hlimit
  simp [renderNumberRow, JVal.get, hl, bind, Except.bind, JVal.formatAligned_of_isScalar hnum,
    JVal.formatAligned_of_isScalar hcarrier,
    JVal.formatAligned_of_isScalar (JVal.or_isScalar (d := .str "-") htag rfl),
    JVal.formatAligned_of_isScalar (JVal.or_isScalar (d := .str "-") hgroup rfl)]

/-- **`list_client_numbers` prints a list of number rows.** -/
theorem renderNumberRows_ok {ns : List JVal} (h : ns.all numberRow) :
    renderNumberRows (.arr ns) = .ok () :=
  List.forM_except_ok fun n hn => renderNumberRow_ok (List.all_eq_true.mp h n hn)

theorem numbers_of_clientRow {c : JVal} (h : clientRow c) :
    ∃ ns, c.get "numbers" (.arr []) = .ok (.arr ns) ∧ ns.all numberRow := by
  simp only [clientRow, Bool.and_eq_true] at h
  obtain ⟨x, hx, hnumbers⟩ := JVal.get_of_fieldIs h.2
  cases x <;> simp_all [JVal.isListOf]

/-- **`show_client_details` prints a client row.** -/
theorem renderClientDetails_ok {c : JVal} (h : clientRow c) : renderClientDetails c = .ok () := by
  obtain ⟨ns, hns, hrows⟩ := numbers_of_clientRow h
  simp only [clientRow, Bool.and_eq_true] at h
  obtain ⟨fields, rfl⟩ := JVal.isObj_of_fieldIs h.1.1.1.1.1
  have hws := h.1.2
  simp only [JVal.fieldIs] at hws
  have hdetails : (ns.forM renderNumberDetail) = .ok () :=
    List.forM_except_ok fun n hn => renderNumberDetail_ok (List.all_eq_true.mp hrows n hn)
  cases hv : (fields.lookup "web_settings").getD .null <;>
    simp_all [renderClientDetails, JVal.get, JVal.isObj, bind, Except.bind, pure, Except.pure,
      JVal.len, JVal.iter]

theorem existingNumbers_ok {c : JVal} (h : clientRow c) : ∃ l, existingNumbers c = .ok l := by
  obtain ⟨ns, hns, hrows⟩ := numbers_of_clientRow h
  obtain ⟨l, hl⟩ := List.mapM_except_ok (f := fun n => n.get "number" (.str "")) fun n hn => by
    obtain ⟨fields, rfl⟩ := isObj_of_numberRow (List.all_eq_true.mp hrows n hn)
    exact ⟨_, rfl⟩
  exact ⟨l, by simp only [existingNumbers, hns, JVal.iter, bind, Except.bind, hl]⟩

theorem carrierNames_ok {carriers : Option JVal}
    (h : ∀ v, carriers = some v → ∃ cs, v = .arr cs ∧ cs.all carrierRow) :
    ∃ l, carrierNames carriers = .ok l := by
  obtain ⟨cs, hcs, hrows⟩ : ∃ cs, ((carriers.getD .null).or (.arr [])) = .arr cs ∧
      cs.all carrierRow := by
    cases carriers with
    | none => exact ⟨[], rfl, rfl⟩
    | some v =>
      obtain ⟨cs, rfl, hrows⟩ := h v rfl
      cases cs with
      | nil => exact ⟨[], rfl, rfl⟩
      | cons c cs => exact ⟨c :: cs, rfl, hrows⟩
  obtain ⟨l, hl⟩ := List.mapM_except_ok (l := cs) (f := fun c => c.get "name" (.str ""))
    fun c hc => by
      have hrow := List.all_eq_true.mp hrows c hc
      simp only [carrierRow, Bool.and_eq_true] at hrow
      obtain ⟨fields, rfl⟩ := JVal.isObj_of_fieldIs hrow.1.1.1
      exact ⟨_, rfl⟩
  exact ⟨l, by simp only [carrierNames, hcs, JVal.iter, bind, Except.bind, hl]⟩

/-! ## The lookup's scans -/

theorem scanId_error {s : String} {e : Exc} :
    ∀ {cs : List JVal}, (∀ c ∈ cs, ∃ fields, c = .obj fields) →
      scanId s cs = .error e → e = .valueError
  | [], _, h => by cases h
  | c :: rest, hobj, h => by
    obtain ⟨fields, rfl⟩ := hobj c (List.mem_cons_self c rest)
    cases hn : Py.int s <;> simp [scanId, JVal.get, hn, bind, Except.bind, throw, throwThe,
      MonadExceptOf.throw, pure, Except.pure] at h
    · exact h.symm
    · split at h
      · cases h
      · exact scanId_error (fun c hc => hobj c (List.mem_cons_of_mem _ hc)) h

theorem scanUsername_ok {s : String} :
    ∀ {cs : List JVal}, (∀ c ∈ cs, ∃ fields, c = .obj fields) → ∃ v, scanUsername s cs = .ok v
  | [], _ => ⟨none, rfl⟩
  | c :: rest, hobj => by
    obtain ⟨fields, rfl⟩ := hobj c (List.mem_cons_self c rest)
    obtain ⟨v, hv⟩ := scanUsername_ok (s := s) fun c hc => hobj c (List.mem_cons_of_mem _ hc)
    by_cases hu : ((fields.lookup "username").getD .null).eqStr s
    · exact ⟨some (.obj fields), by
        simp [scanUsername, JVal.get, hu, bind, Except.bind, pure, Except.pure]⟩
    · exact ⟨v, by simp [scanUsername, JVal.get, hu, hv, bind, Except.bind, pure, Except.pure]⟩

/-- **The lookup's scans over a list of dicts raise only `ValueError`**, from `int()`. -/
theorem findClient_error {cs : List JVal} (hobj : ∀ c ∈ cs, ∃ fields, c = .obj fields)
    {s : String} {e : Exc} (h : findClient (.arr cs) s = .error e) : e = .valueError := by
  obtain ⟨v, hv⟩ := scanUsername_ok (s := s) hobj
  rcases hi : scanId s cs with e' | _ | c <;> cases hd : Py.isdigit s <;>
    simp [findClient, JVal.iter, hd, hi, hv, bind, Except.bind, pure, Except.pure] at h
  exact h ▸ scanId_error hobj hi

/-! ## The contract -/

variable {σ : Type}

/-- The operator's exceptions, and the `ValueError` of `int()` on an identifier. -/
def Exc.IsLocalOrInt (e : Exc) : Prop := e.IsLocal ∨ e = .valueError

/-- `r` is an answer of the gateway, from some state, to a request of `method` to `path`. -/
def Gateway.Answers (gw : Gateway σ) (method : Method) (path : String) (r : Response) : Prop :=
  ∃ s req, req.method = method ∧ req.path = path ∧ (gw.respond s req).1 = .response r

/-- The gateway answers in the shapes the script reads: a 200 answer to `GET /carriers` is a list
of carrier rows, a 200 answer to `GET /clients` a list of client rows, and a 2xx answer to
`POST /clients` a dict. -/
structure AnswersAsRead (gw : Gateway σ) : Prop where
  carriers : ∀ r, gw.Answers .get "/carriers" r → r.status = 200 →
    ∃ cs, r.json = some (.arr cs) ∧ cs.all carrierRow
  clients : ∀ r, gw.Answers .get "/clients" r → r.status = 200 →
    ∃ cs, r.json = some (.arr cs) ∧ cs.all clientRow
  created : ∀ r, gw.Answers .post "/clients" r → is2xx r.status →
    ∃ fields, r.json = some (.obj fields)

/-! ## The rules -/

section Rules

variable {α β : Type} {Q : α → Prop}

theorem Cli.EndsIn.mono {E E' : Exc → Prop} {Q' : α → Prop} {x : Cli σ α}
    (hx : Cli.EndsIn E Q x) (hE : ∀ e, E e → E' e) (hQ : ∀ a, Q a → Q' a) :
    Cli.EndsIn E' Q' x := fun w => by
  have h := hx w
  revert h
  cases x w with
  | ok a _ => exact hQ a
  | error e _ => exact hE e

theorem Cli.EndsIn.local {x : Cli σ α} (hx : Cli.EndsIn Exc.IsLocal Q x) :
    Cli.EndsIn Exc.IsLocalOrInt Q x :=
  hx.mono (fun _ => .inl) fun _ h => h

theorem Cli.endsIn_liftExcept {E : Exc → Prop} {x : Except Exc α} (hE : ∀ e, x = .error e → E e)
    (hQ : ∀ a, x = .ok a → Q a) : Cli.EndsIn E Q (liftExcept x : Cli σ α) := by
  cases x with
  | error e => exact fun _ => hE e rfl
  | ok a => exact Cli.endsIn_pure (hQ a rfl)

theorem Cli.endsIn_foldlM {E : Exc → Prop} {I : β → Prop} {f : β → α → Cli σ β} :
    ∀ {l : List α}, (∀ b a, I b → Cli.EndsIn E I (f b a)) → ∀ b, I b →
      Cli.EndsIn E I (l.foldlM f b)
  | [], _, _, hb => Cli.endsIn_pure hb
  | a :: l, hf, b, hb => by
    rw [List.foldlM_cons]
    exact Cli.endsIn_bind (hf b a hb) fun b' hb' => Cli.endsIn_foldlM hf b' hb'

theorem send_answers (gw : Gateway σ) (method : Method) (path : String)
    (payload : Option (List (String × JVal))) :
    Cli.EndsIn Exc.IsLocal (fun o => ∀ r, o = .response r → gw.Answers method path r)
      (send gw method path payload) := fun w => by
  cases h : send gw method path payload w with
  | ok o w' =>
    obtain ⟨auth, rest, ho, -⟩ := send_ok h
    exact fun r hr => ⟨_, _, rfl, rfl, ho.trans hr⟩
  | error e w' => exact (send_error h).2.isLocal

theorem Cli.endsIn_answer_bind {gw : Gateway σ} {method : Method} {path : String}
    {payload : Option (List (String × JVal))} {f : Outcome → Cli σ α}
    (hnet : ∀ msg, Cli.EndsIn Exc.IsLocalOrInt Q (f (.networkError msg)))
    (hresp : ∀ r, gw.Answers method path r → Cli.EndsIn Exc.IsLocalOrInt Q (f (.response r))) :
    Cli.EndsIn Exc.IsLocalOrInt Q (send gw method path payload >>= f) :=
  Cli.endsIn_bind (send_answers gw method path payload).local fun o ho => by
    cases o with
    | networkError msg => exact hnet msg
    | response r => exact hresp r (ho r rfl)

theorem Cli.endsIn_send_ignore_bind {gw : Gateway σ} {method : Method} {path : String}
    {payload : Option (List (String × JVal))} {f : Outcome → Cli σ α}
    (hf : ∀ o, Cli.EndsIn Exc.IsLocalOrInt Q (f o)) :
    Cli.EndsIn Exc.IsLocalOrInt Q (send gw method path payload >>= f) :=
  Cli.endsIn_bind (send_answers gw method path payload).local fun o _ => hf o

end Rules

theorem Response.decode_of_json {r : Response} {v : JVal} (h : r.json = some v) :
    r.decode = .ok v := by
  simp [Response.decode, h]

/-! ## Operations that read no answer -/

section Quiet

variable (gw : Gateway σ)

theorem createCarrierInteractive_local :
    Cli.EndsIn Exc.IsLocal (fun _ => True) (createCarrierInteractive gw) := by
  refine Cli.endsIn_bind input_endsIn fun _ _ => ?_
  refine Cli.endsIn_ite (fun _ => Cli.endsIn_pure trivial) fun _ => ?_
  exact Cli.endsIn_bind input_endsIn fun _ _ => Cli.endsIn_bind input_endsIn fun _ _ =>
    Cli.endsIn_bind input_endsIn fun _ _ => Cli.endsIn_bind input_endsIn fun _ _ =>
      Cli.endsIn_bind input_endsIn fun _ _ =>
        Cli.endsIn_bind (send_answers gw _ _ _) fun o _ => by
          cases o <;> exact Cli.endsIn_pure trivial

theorem addNumber_local (clientId : JVal) (carrier : String) (acc : List JVal × Tally)
    (num : String) :
    Cli.EndsIn Exc.IsLocal (fun _ => True) (addNumber gw clientId carrier acc num) :=
  Cli.endsIn_ite (fun _ => Cli.endsIn_pure trivial) fun _ =>
    Cli.endsIn_bind (send_answers gw _ _ _) fun _ _ => Cli.endsIn_pure trivial

theorem reloadAll_local : Cli.EndsIn Exc.IsLocal (fun _ => True) (reloadAll gw) :=
  Cli.endsIn_bind (send_answers gw _ _ _) fun _ _ =>
    Cli.endsIn_bind (send_answers gw _ _ _) fun _ _ => Cli.endsIn_pure trivial

end Quiet

/-! ## Operations that read answers -/

section Read

variable {gw : Gateway σ} (hgw : AnswersAsRead gw)
include hgw

theorem listCarriers_read :
    Cli.EndsIn Exc.IsLocalOrInt
      (fun v => ∀ c, v = some c → ∃ cs, c = .arr cs ∧ cs.all carrierRow) (listCarriers gw) :=
  Cli.endsIn_answer_bind (fun _ => Cli.endsIn_pure nofun) fun r hr =>
    Cli.endsIn_ite (fun _ => Cli.endsIn_pure nofun) fun h200 => by
      obtain ⟨cs, hjson, hrows⟩ := hgw.carriers r hr (by simpa using h200)
      refine Cli.endsIn_bind (Q := (· = JVal.arr cs))
        (Cli.endsIn_liftExcept_ok (Response.decode_of_json hjson) rfl) fun v hv => ?_
      subst hv
      exact Cli.endsIn_ite
        (fun _ => Cli.endsIn_pure fun _ hc => ⟨[], (Option.some.inj hc).symm, rfl⟩) fun _ =>
          Cli.endsIn_bind (Q := fun _ => True)
            (Cli.endsIn_liftExcept_ok (renderCarriers_ok hrows) trivial) fun _ _ =>
            Cli.endsIn_pure fun _ hc => ⟨cs, (Option.some.inj hc).symm, hrows⟩

theorem listClients_read : Cli.EndsIn Exc.IsLocalOrInt (fun _ => True) (listClients gw) :=
  Cli.endsIn_answer_bind (fun _ => Cli.endsIn_pure trivial) fun r hr =>
    Cli.endsIn_ite (fun _ => Cli.endsIn_pure trivial) fun h200 => by
      obtain ⟨cs, hjson, hrows⟩ := hgw.clients r hr (by simpa using h200)
      refine Cli.endsIn_bind (Q := (· = JVal.arr cs))
        (Cli.endsIn_liftExcept_ok (Response.decode_of_json hjson) rfl) fun v hv => ?_
      subst hv
      exact Cli.endsIn_ite (fun _ => Cli.endsIn_pure trivial) fun _ =>
        Cli.endsIn_bind (Q := fun _ => True)
          (Cli.endsIn_liftExcept_ok (renderClients_ok hrows) trivial) fun _ _ =>
          Cli.endsIn_pure trivial

theorem createClientInteractive_read :
    Cli.EndsIn Exc.IsLocalOrInt (fun _ => True) (createClientInteractive gw) := by
  refine Cli.endsIn_bind input_endsIn.local fun _ _ => ?_
  refine Cli.endsIn_ite (fun _ => Cli.endsIn_pure trivial) fun _ => ?_
  refine Cli.endsIn_bind input_endsIn.local fun _ _ =>
    Cli.endsIn_bind (passwordOrGenerated_endsIn _).local fun _ _ => ?_
  refine Cli.endsIn_bind input_endsIn.local fun _ _ => Cli.endsIn_bind input_endsIn.local
    fun _ _ => Cli.endsIn_bind input_endsIn.local fun _ _ => ?_
  refine Cli.endsIn_ite (fun _ => Cli.endsIn_pure trivial) fun _ =>
    Cli.endsIn_bind input_endsIn.local fun _ _ => ?_
  refine Cli.endsIn_answer_bind (fun _ => Cli.endsIn_pure trivial) fun r hr =>
    Cli.endsIn_ite (fun h2xx => ?_) fun _ => Cli.endsIn_pure trivial
  obtain ⟨fields, hjson⟩ := hgw.created r hr h2xx
  refine Cli.endsIn_bind (Q := (· = JVal.obj fields))
    (Cli.endsIn_liftExcept_ok (Response.decode_of_json hjson) rfl) fun d hd => ?_
  subst hd
  exact Cli.endsIn_bind (Q := fun _ => True) (Cli.endsIn_liftExcept_ok rfl trivial) fun _ _ =>
    Cli.endsIn_pure trivial

/-- **The lookup raises only `ValueError`, and returns a client row.** -/
theorem getClientByIdentifier_read (identifier : String) :
    Cli.EndsIn Exc.IsLocalOrInt (fun v => ∀ c, v = some c → clientRow c)
      (getClientByIdentifier gw identifier) :=
  Cli.endsIn_answer_bind (fun _ => Cli.endsIn_pure nofun) fun r hr =>
    Cli.endsIn_ite (fun _ => Cli.endsIn_pure nofun) fun h200 => by
      obtain ⟨cs, hjson, hrows⟩ := hgw.clients r hr (by simpa using h200)
      have hobj : ∀ c ∈ cs, ∃ fields, c = .obj fields := fun c hc =>
        isObj_of_clientRow (List.all_eq_true.mp hrows c hc)
      refine Cli.endsIn_bind (Q := (· = JVal.arr cs))
        (Cli.endsIn_liftExcept_ok (Response.decode_of_json hjson) rfl) fun v hv => ?_
      subst hv
      refine Cli.endsIn_liftExcept (fun e he => .inr (findClient_error hobj he)) fun v hv c hc => ?_
      obtain ⟨items, hitems, hmem⟩ := findClient_mem (hc ▸ hv)
      obtain rfl : cs = items := Except.ok.inj hitems
      exact List.all_eq_true.mp hrows c hmem

theorem Cli.endsIn_read_lookup_bind {α : Type} {Q : α → Prop} {identifier : String}
    {f : Option JVal → Cli σ α} (hnone : Cli.EndsIn Exc.IsLocalOrInt Q (f none))
    (hsome : ∀ c, clientRow c → Cli.EndsIn Exc.IsLocalOrInt Q (f (some c))) :
    Cli.EndsIn Exc.IsLocalOrInt Q (getClientByIdentifier gw identifier >>= f) :=
  Cli.endsIn_bind (getClientByIdentifier_read hgw identifier) fun v hv => by
    cases v with
    | none => exact hnone
    | some c => exact hsome c (hv c rfl)

omit hgw in
theorem Cli.endsIn_id_bind {α : Type} {Q : α → Prop} {c : JVal} (hc : clientRow c)
    {f : JVal → Cli σ α} (hf : ∀ x, Cli.EndsIn Exc.IsLocalOrInt Q (f x)) :
    Cli.EndsIn Exc.IsLocalOrInt Q (liftExcept (c.get "id" .null) >>= f) := by
  obtain ⟨fields, rfl⟩ := isObj_of_clientRow hc
  exact Cli.endsIn_bind (Q := fun _ => True) (Cli.endsIn_liftExcept_ok rfl trivial) fun x _ => hf x

theorem showClientDetails_read (identifier : String) :
    Cli.EndsIn Exc.IsLocalOrInt (fun _ => True) (showClientDetails gw identifier) :=
  Cli.endsIn_read_lookup_bind hgw (Cli.endsIn_pure trivial) fun _ hc =>
    Cli.endsIn_ite (fun _ => Cli.endsIn_pure trivial) fun _ =>
      Cli.endsIn_liftExcept_ok (renderClientDetails_ok hc) trivial

theorem updateClientSettings_read (identifier : String) :
    Cli.EndsIn Exc.IsLocalOrInt (fun _ => True) (updateClientSettings gw identifier) :=
  Cli.endsIn_read_lookup_bind hgw (Cli.endsIn_pure trivial) fun _ hc =>
    Cli.endsIn_ite (fun _ => Cli.endsIn_pure trivial) fun _ => Cli.endsIn_id_bind hc fun _ =>
      Cli.endsIn_bind input_endsIn.local fun _ _ => Cli.endsIn_bind input_endsIn.local fun _ _ =>
        Cli.endsIn_bind input_endsIn.local fun _ _ => Cli.endsIn_bind input_endsIn.local fun _ _ =>
          Cli.endsIn_ite (fun _ => Cli.endsIn_pure trivial) fun _ =>
            Cli.endsIn_send_ignore_bind fun _ => Cli.endsIn_pure trivial

theorem changeClientPassword_read (identifier : String) :
    Cli.EndsIn Exc.IsLocalOrInt (fun _ => True) (changeClientPassword gw identifier) :=
  Cli.endsIn_read_lookup_bind hgw (Cli.endsIn_pure trivial) fun _ hc =>
    Cli.endsIn_ite (fun _ => Cli.endsIn_pure trivial) fun _ => Cli.endsIn_id_bind hc fun _ =>
      Cli.endsIn_bind input_endsIn.local fun _ _ =>
        Cli.endsIn_bind (passwordOrGenerated_endsIn _).local fun _ _ =>
          Cli.endsIn_bind input_endsIn.local fun _ _ =>
            Cli.endsIn_ite (fun _ => Cli.endsIn_pure trivial) fun _ =>
              Cli.endsIn_send_ignore_bind fun _ => Cli.endsIn_pure trivial

theorem listClientNumbers_read (username : String) :
    Cli.EndsIn Exc.IsLocalOrInt (fun _ => True) (listClientNumbers gw username) :=
  Cli.endsIn_read_lookup_bind hgw (Cli.endsIn_pure trivial) fun _ hc => by
    obtain ⟨ns, hns, hrows⟩ := numbers_of_clientRow hc
    refine Cli.endsIn_ite (fun _ => Cli.endsIn_pure trivial) fun _ =>
      Cli.endsIn_bind (Q := (· = JVal.arr ns)) (Cli.endsIn_liftExcept_ok hns rfl) fun v hv => ?_
    subst hv
    exact Cli.endsIn_ite (fun _ => Cli.endsIn_pure trivial) fun _ =>
      Cli.endsIn_liftExcept_ok (renderNumberRows_ok hrows) trivial

theorem addNumbersToClient_read (identifier : String) (numbers : List String) (carrier : String)
    (skipExisting : Bool) :
    Cli.EndsIn Exc.IsLocalOrInt (fun _ => True)
      (addNumbersToClient gw identifier numbers carrier skipExisting) :=
  Cli.endsIn_read_lookup_bind hgw (Cli.endsIn_pure trivial) fun _ hc =>
    Cli.endsIn_ite (fun _ => Cli.endsIn_pure trivial) fun _ => Cli.endsIn_id_bind hc fun x =>
      Cli.endsIn_bind (Q := fun _ => True) (Cli.endsIn_ite
        (fun _ => let ⟨_, hl⟩ := existingNumbers_ok hc; Cli.endsIn_liftExcept_ok hl trivial)
        fun _ => Cli.endsIn_pure trivial) fun _ _ =>
      Cli.endsIn_bind (Cli.endsIn_foldlM (I := fun _ => True)
        (fun _ _ _ => (addNumber_local gw x carrier _ _).local) _ trivial) fun _ _ =>
        Cli.endsIn_pure trivial

/-! ## The menu -/

omit hgw in
theorem Cli.endsIn_withIdentifier (last : Option String) {op : String → Cli σ Unit}
    (hop : ∀ s, Cli.EndsIn Exc.IsLocalOrInt (fun _ => True) (op s)) :
    Cli.EndsIn Exc.IsLocalOrInt (fun _ => True) (withIdentifier last op) :=
  Cli.endsIn_bind (identifierOr_endsIn last).local fun identifier _ => by
    cases identifier with
    | none => exact Cli.endsIn_pure trivial
    | some s => exact hop s

theorem addNumbersOption_read (last : Option String) :
    Cli.EndsIn Exc.IsLocalOrInt (fun _ => True) (addNumbersOption gw last) := by
  refine Cli.endsIn_bind (identifierOr_endsIn last).local fun identifier _ => ?_
  cases identifier with
  | none => exact Cli.endsIn_pure trivial
  | some identifier =>
    refine Cli.endsIn_bind (listCarriers_read hgw) fun _ hcarriers => ?_
    obtain ⟨_, hl⟩ := carrierNames_ok hcarriers
    refine Cli.endsIn_bind (Q := fun _ => True) (Cli.endsIn_liftExcept_ok hl trivial) fun _ _ =>
      Cli.endsIn_bind carrierOrDefault_endsIn.local fun _ _ =>
        Cli.endsIn_bind (Cli.EndsIn.local fun w => readLines_endsIn _ [] w) fun _ _ => ?_
    exact Cli.endsIn_ite (fun _ => Cli.endsIn_pure trivial) fun _ =>
      Cli.endsIn_bind (addNumbersToClient_read hgw _ _ _ _) fun _ _ => Cli.endsIn_pure trivial

theorem quickFlow_read (last : Option String) :
    Cli.EndsIn Exc.IsLocalOrInt (fun _ => True) (quickFlow gw last) := by
  refine Cli.endsIn_bind (createClientInteractive_read hgw) fun created _ => ?_
  cases created with
  | none => exact Cli.endsIn_pure trivial
  | some username =>
    refine Cli.endsIn_ite (fun _ => Cli.endsIn_pure trivial) fun _ => ?_
    refine Cli.endsIn_bind (listCarriers_read hgw) fun _ _ =>
      Cli.endsIn_bind carrierOrDefault_endsIn.local fun _ _ =>
        Cli.endsIn_bind input_endsIn.local fun _ _ =>
          Cli.endsIn_bind (Q := fun _ => True) ?_ fun _ _ => ?_
    · exact Cli.endsIn_ite (fun _ => Cli.endsIn_pure trivial) fun _ =>
        Cli.endsIn_bind (addNumbersToClient_read hgw _ _ _ _) fun _ _ => Cli.endsIn_pure trivial
    · exact Cli.endsIn_bind input_endsIn.local fun _ _ => Cli.endsIn_bind
        (Cli.endsIn_ite (fun _ => (reloadAll_local gw).local) fun _ => Cli.endsIn_pure trivial)
        fun _ _ => Cli.endsIn_pure trivial

theorem menuAction_read (last : Option String) (choice : String) :
    Cli.EndsIn Exc.IsLocalOrInt (fun _ => True) (menuAction gw last choice) := by
  have hpure : ∀ {α : Type} {Q : α → Prop} {x : Cli σ α} (b : Option (Option String)),
      Cli.EndsIn Exc.IsLocalOrInt Q x →
      Cli.EndsIn Exc.IsLocalOrInt (fun _ => True) (x >>= fun _ => pure b) :=
    fun _ hx => Cli.endsIn_bind hx fun _ _ => Cli.endsIn_pure trivial
  unfold menuAction
  split
  · exact hpure _ (listCarriers_read hgw)
  · exact hpure _ (createCarrierInteractive_local gw).local
  · exact hpure _ (listClients_read hgw)
  · exact hpure _ (Cli.endsIn_withIdentifier last (showClientDetails_read hgw))
  · exact Cli.endsIn_bind (createClientInteractive_read hgw) fun _ _ => Cli.endsIn_pure trivial
  · exact hpure _ (Cli.endsIn_withIdentifier last (updateClientSettings_read hgw))
  · exact hpure _ (Cli.endsIn_withIdentifier last (changeClientPassword_read hgw))
  · exact hpure _ (Cli.endsIn_withIdentifier last (listClientNumbers_read hgw))
  · exact Cli.endsIn_bind (addNumbersOption_read hgw last) fun _ _ => Cli.endsIn_pure trivial
  · exact hpure _ (reloadAll_local gw).local
  · exact Cli.endsIn_bind (quickFlow_read hgw last) fun _ _ => Cli.endsIn_pure trivial
  · exact Cli.endsIn_pure trivial
  · exact Cli.endsIn_pure trivial

theorem menuLoop_read :
    ∀ (fuel : Nat) (last : Option String),
      Cli.EndsIn Exc.IsLocalOrInt (fun _ => True) (menuLoop gw fuel last)
  | 0, _ => Cli.endsIn_pure trivial
  | fuel + 1, _ => Cli.endsIn_bind input_endsIn.local fun _ _ =>
    Cli.endsIn_bind (menuAction_read hgw _ _) fun r _ => by
      cases r with
      | none => exact Cli.endsIn_pure trivial
      | some last' => exact menuLoop_read fuel last'

end Read

theorem sampleGateway_answersAsRead : AnswersAsRead sampleGateway where
  carriers r := by
    rintro ⟨s, req, hm, hp, hr⟩ -
    simp only [sampleGateway, hm, hp, and_self, if_true, Outcome.response.injEq] at hr
    exact ⟨_, by rw [← hr], by decide⟩
  clients r := by
    rintro ⟨s, req, hm, hp, hr⟩ -
    simp [sampleGateway, hm, hp] at hr
    exact ⟨_, by rw [← hr], by decide⟩
  created r := by
    rintro ⟨s, req, hm, hp, hr⟩ -
    simp [sampleGateway, hm, hp] at hr
    exact ⟨_, by rw [← hr]⟩

end MsggwManager
