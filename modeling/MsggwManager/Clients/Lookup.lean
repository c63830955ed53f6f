import MsggwManager.Frame

/-!
# Finding a client by id or username

`get_client_by_identifier(identifier)` fetches `GET /clients` and scans the list twice: first,
when `identifier.isdigit()`, for a client whose `id` equals `int(identifier)`, then for one whose
`username` equals `identifier`. A network fault or a status other than 200 gives `None`.

The id scan evaluates `int(identifier)` at every client it visits, and `isdigit` accepts more
than `int` reads (`²`, `①`, ...): on a non-empty list such an identifier raises `ValueError`
(`findClient_raises`). On identifiers it does not raise on, the result is the first id match,
else the first username match (`findClient_eq_expected`); `str` of a non-negative id always finds
its client when ids are distinct (`findClient_toString`).
-/

namespace MsggwManager

/-- The id scan: `for c in clients: if c.get("id") == int(identifier): return c`. -/
def scanId (identifier : String) : List JVal → Except Exc (Option JVal)
  | [] => .ok none
  | c :: rest => do
    let id ← c.get "id" .null
    let n ← match Py.int identifier with
      | some n => pure n
      | none => throw .valueError
    if id.eqInt n then return some c
    scanId identifier rest

/-- The username scan: `for c in clients: if c.get("username") == identifier: return c`. -/
def scanUsername (identifier : String) : List JVal → Except Exc (Option JVal)
  | [] => .ok none
  | c :: rest => do
    let username ← c.get "username" .null
    if username.eqStr identifier then return some c
    scanUsername identifier rest

/-- The scans of `get_client_by_identifier` over the decoded body `clients`. -/
def findClient (clients : JVal) (identifier : String) : Except Exc (Option JVal) := do
  if Py.isdigit identifier then
    if let some c ← scanId identifier (← clients.iter) then return some c
  scanUsername identifier (← clients.iter)

variable {σ : Type}

/-- `get_client_by_identifier(identifier)`. -/
def getClientByIdentifier (gw : Gateway σ) (identifier : String) : Cli σ (Option JVal) := do
  match ← getJson gw "/clients" with
  | .networkError _ => return none
  | .response resp =>
    if resp.status != 200 then return none
    else
      let clients ← liftExcept resp.decode
      liftExcept (findClient clients identifier)

/-- `get_client(username)`: the same lookup. -/
def getClient (gw : Gateway σ) (username : String) : Cli σ (Option JVal) :=
  getClientByIdentifier gw username

theorem getClientByIdentifier_keeps_of {gw : Gateway σ} {p : Progress σ}
    (hget : Cli.Keeps p (getJson gw "/clients")) (identifier : String) :
    Cli.Keeps p (getClientByIdentifier gw identifier) := by
  refine Cli.keeps_bind hget fun o => ?_
  cases o with
  | networkError => exact Cli.keeps_pure _
  | response resp =>
    exact Cli.keeps_ite (fun _ => Cli.keeps_pure _)
      fun _ => Cli.keeps_bind (Cli.keeps_liftExcept _) fun _ => Cli.keeps_liftExcept _

theorem getClientByIdentifier_keeps {gw : Gateway σ} (F : ScriptFrame gw) (identifier : String) :
    Cli.Keeps F.toProgress (getClientByIdentifier gw identifier) :=
  getClientByIdentifier_keeps_of (F.keepsSend _ _ _ .listClients) identifier

end MsggwManager

namespace MsggwManager

/-! ## Lists of client records -/

/-- A client as `GET /clients` lists it: a dict whose `id` is an int and `username` a string. The
id has at most `Py.maxStrDigits` digits, as every int `json.loads` returns. -/
structure ClientRecord where
  fields : List (String × JVal)
  id : Int
  username : String
  id_field : fields.lookup "id" = some (.num id)
  username_field : fields.lookup "username" = some (.str username)
  id_digits : id.natAbs < 10 ^ Py.maxStrDigits

/-- The dict of a client record. -/
def ClientRecord.toJVal (c : ClientRecord) : JVal := .obj c.fields

@[simp] theorem ClientRecord.get_id (c : ClientRecord) :
    c.toJVal.get "id" .null = .ok (.num c.id) := by
  simp [ClientRecord.toJVal, JVal.get, c.id_field]

@[simp] theorem ClientRecord.get_username (c : ClientRecord) :
    c.toJVal.get "username" .null = .ok (.str c.username) := by
  simp [ClientRecord.toJVal, JVal.get, c.username_field]

@[simp] theorem ClientRecord.truthy_toJVal (c : ClientRecord) : c.toJVal.truthy = true := by
  have h := c.id_field
  cases hf : c.fields with
  | nil => rw [hf] at h; cases h
  | cons _ _ => simp [ClientRecord.toJVal, JVal.truthy, hf]

theorem scanId_records {s : String} {n : Int} (hn : Py.int s = some n) (cs : List ClientRecord) :
    scanId s (cs.map ClientRecord.toJVal) =
      .ok ((cs.find? (·.id == n)).map ClientRecord.toJVal) := by
  induction cs with
  | nil => rfl
  | cons c cs ih =>
    by_cases hc : c.id = n
    · simp [scanId, hn, hc, JVal.eqInt, bind, Except.bind, pure, Except.pure]
    · simp [scanId, hn, hc, JVal.eqInt, bind, Except.bind, pure, Except.pure, ih]

theorem scanId_records_raise {s : String} (hn : Py.int s = none) (c : ClientRecord)
    (cs : List ClientRecord) :
    scanId s (c.toJVal :: cs.map ClientRecord.toJVal) = .error .valueError := by
  simp [scanId, hn, bind, Except.bind, throw, throwThe, MonadExceptOf.throw]

theorem scanUsername_records (s : String) (cs : List ClientRecord) :
    scanUsername s (cs.map ClientRecord.toJVal) =
      .ok ((cs.find? (·.username == s)).map ClientRecord.toJVal) := by
  induction cs with
  | nil => rfl
  | cons c cs ih =>
    by_cases hc : c.username = s
    · simp [scanUsername, hc, JVal.eqStr, bind, Except.bind, pure, Except.pure]
    · simp [scanUsername, hc, JVal.eqStr, bind, Except.bind, pure, Except.pure, ih]

theorem findClient_records (cs : List ClientRecord) (s : String) :
    findClient (.arr (cs.map ClientRecord.toJVal)) s =
      if Py.isdigit s then
        match Py.int s with
        | some n =>
          .ok ((cs.find? (·.id == n) <|> cs.find? (·.username == s)).map ClientRecord.toJVal)
        | none => if cs.isEmpty then .ok none else .error .valueError
      else .ok ((cs.find? (·.username == s)).map ClientRecord.toJVal) := by
  by_cases hd : Py.isdigit s
  · cases hn : Py.int s with
    | none =>
      cases cs with
      | nil => simp [findClient, hd, JVal.iter, scanId, scanUsername, bind, Except.bind, pure,
          Except.pure]
      | cons c cs => simp [findClient, hd, hn, JVal.iter, scanId_records_raise hn, bind,
          Except.bind, pure, Except.pure]
    | some n =>
      cases hf : cs.find? (·.id == n) <;>
        simp [findClient, hd, hn, hf, JVal.iter, scanId_records hn, scanUsername_records, bind,
          Except.bind, pure, Except.pure]
  · simp [findClient, hd, JVal.iter, scanUsername_records, bind, Except.bind, pure, Except.pure]

/-- The client the lookup is described as returning, written from that description and not from
the code, to be compared with `findClient`: the first id match when `identifier.isdigit()`,
otherwise the first username match. -/
def expectedClient (cs : List ClientRecord) (identifier : String) : Option ClientRecord :=
  ((if Py.isdigit identifier then Py.int identifier else none).bind
      fun n => cs.find? (·.id == n)) <|> cs.find? (·.username == identifier)

theorem findClient_eq_expected {cs : List ClientRecord} {s : String} {v : Option JVal}
    (h : findClient (.arr (cs.map ClientRecord.toJVal)) s = .ok v) :
    v = (expectedClient cs s).map ClientRecord.toJVal := by
  rw [findClient_records] at h
  unfold expectedClient
  by_cases hd : Py.isdigit s
  · cases hn : Py.int s with
    | none =>
      cases cs <;> simp_all [Except.ok.injEq]
    | some n => simp_all [Except.ok.injEq]
  · simp_all [Except.ok.injEq]

theorem find?_id_of_nodup {cs : List ClientRecord} (hd : (cs.map (·.id)).Nodup) {c : ClientRecord}
    (hc : c ∈ cs) : cs.find? (·.id == c.id) = some c := by
  induction cs with
  | nil => cases hc
  | cons d ds ih =>
    rw [List.map_cons, List.nodup_cons] at hd
    rcases List.mem_cons.mp hc with rfl | hc
    · simp
    · have hne : d.id ≠ c.id := fun h => hd.1 (h ▸ List.mem_map_of_mem _ hc)
      simp [hne, ih hd.2 hc]

theorem findClient_toString {cs : List ClientRecord} (hd : (cs.map (·.id)).Nodup)
    {c : ClientRecord} (hc : c ∈ cs) (hnn : 0 ≤ c.id) :
    findClient (.arr (cs.map ClientRecord.toJVal)) (toString c.id) = .ok (some c.toJVal) := by
  obtain ⟨n, hn⟩ := Int.eq_ofNat_of_zero_le hnn
  have hdigit := Py.isdigit_toString n
  have hint := @Py.int_toString n (by simpa [hn] using c.id_digits)
  rw [← hn] at hdigit hint
  simp [findClient_records, hdigit, hint, hn ▸ find?_id_of_nodup hd hc]

/-- **An identifier `isdigit` accepts but `int` does not read raises** on any non-empty list:
`²`, `①`, or more than `Py.maxStrDigits` digits. -/
theorem findClient_raises {s : String} (hd : Py.isdigit s) (hn : Py.int s = none)
    (c : ClientRecord) (cs : List ClientRecord) :
    findClient (.arr ((c :: cs).map ClientRecord.toJVal)) s = .error .valueError := by
  rw [findClient_records]
  simp [hd, hn]

example : Py.isdigit "²" ∧ Py.int "²" = none := by decide

theorem findClient_records_error {cs : List ClientRecord} {s : String} {e : Exc}
    (h : findClient (.arr (cs.map ClientRecord.toJVal)) s = .error e) : e = .valueError := by
  rw [findClient_records] at h
  split_ifs at h <;> (try split at h) <;> cases h
  rfl

variable {σ : Type}

/-- The gateway answers `GET /clients` from state `s` with status 200 and the records `cs`. -/
def ListsClients (gw : Gateway σ) (s : σ) (cs : List ClientRecord) : Prop :=
  ∀ req : Request, req.method = .get → req.path = "/clients" →
    ∃ r, (gw.respond s req).1 = .response r ∧ r.status = 200 ∧
      r.json = some (.arr (cs.map ClientRecord.toJVal))

theorem getClientByIdentifier_listed {gw : Gateway σ} {w : World σ} {cs : List ClientRecord}
    (hlist : ListsClients gw w.server cs) (s : String) :
    (∃ req rest, req.method = .get ∧ req.path = "/clients" ∧
      getClientByIdentifier gw s w = liftExcept (findClient (.arr (cs.map ClientRecord.toJVal)) s)
        { w with keys := rest, server := (gw.respond w.server req).2,
                 log := w.log ++ [(req, (gw.respond w.server req).1)] }) ∨
    (∃ e w', getClientByIdentifier gw s w = .error e w' ∧ w' = { w with keys := w'.keys } ∧
      e.IsSendStop w.env) := by
  unfold getClientByIdentifier getJson
  rw [Cli.bind_apply]
  cases hsend : send gw .get "/clients" none w with
  | error e w₁ => exact .inr ⟨e, w₁, rfl, send_error hsend⟩
  | ok o w₁ =>
    obtain ⟨auth, rest, rfl, rfl⟩ := send_ok hsend
    obtain ⟨r, hr, hstatus, hjson⟩ := hlist ⟨.get, baseUrl w.env, "/clients", auth, none⟩ rfl rfl
    refine .inl ⟨⟨.get, baseUrl w.env, "/clients", auth, none⟩, rest, rfl, rfl, ?_⟩
    simp [hr, hstatus, Response.decode, hjson, liftExcept]

theorem getClientByIdentifier_ok {gw : Gateway σ} {w w' : World σ} {cs : List ClientRecord}
    (hlist : ListsClients gw w.server cs) {s : String} {v : Option JVal}
    (h : getClientByIdentifier gw s w = .ok v w') :
    v = (expectedClient cs s).map ClientRecord.toJVal := by
  rcases getClientByIdentifier_listed hlist s with ⟨req, rest, -, -, h'⟩ | ⟨e, w'', h', -⟩ <;>
    rw [h'] at h
  · cases hf : findClient (.arr (cs.map ClientRecord.toJVal)) s <;> simp [hf, liftExcept] at h
    exact h.1 ▸ findClient_eq_expected hf
  · cases h

theorem getClientByIdentifier_raises (gw : Gateway σ) (w : World σ) {cs : List ClientRecord}
    (hlist : ListsClients gw w.server cs) (hcs : cs ≠ []) (hconf : w.env.keyConfigured)
    (hkey : Py.encodesLatin1 w.env.key) {s : String} (hd : Py.isdigit s) (hn : Py.int s = none) :
    ∃ w', getClientByIdentifier gw s w = .error .valueError w' := by
  obtain ⟨c, cs, rfl⟩ := List.exists_cons_of_ne_nil hcs
  rcases getClientByIdentifier_listed hlist s with ⟨req, rest, -, -, h⟩ | ⟨e, w', -, -, hstop⟩
  · exact ⟨_, by rw [h, findClient_raises hd hn]; rfl⟩
  · exact absurd hstop (Exc.not_isSendStop hconf hkey)

/-- **`get_client_by_identifier` returns the first id match, else the first username match**,
wherever it returns; and `str` of a non-negative id finds that client when ids are distinct,
unless the request cannot go out (the key prompt, or a key that is not latin-1). -/
theorem getClientByIdentifier_spec {gw : Gateway σ} {w : World σ} {cs : List ClientRecord}
    (hlist : ListsClients gw w.server cs) :
    (∀ s v w', getClientByIdentifier gw s w = .ok v w' →
      v = (expectedClient cs s).map ClientRecord.toJVal) ∧
    ((cs.map (·.id)).Nodup → ∀ c ∈ cs, 0 ≤ c.id →
      (∃ w', getClientByIdentifier gw (toString c.id) w = .ok (some c.toJVal) w') ∨
      (∃ e w', getClientByIdentifier gw (toString c.id) w = .error e w' ∧
        e.IsSendStop w.env)) := by
  refine ⟨fun s v w' h => getClientByIdentifier_ok hlist h, fun hd c hc hnn => ?_⟩
  rcases getClientByIdentifier_listed hlist (toString c.id) with
    ⟨req, rest, -, -, h⟩ | ⟨e, w', h, -, hstop⟩
  · exact .inl ⟨_, by rw [h, findClient_toString hd hc hnn]; rfl⟩
  · exact .inr ⟨e, w', h, hstop⟩

/-- Client 9's username is client 7's id: the lookup of `7`, and `get_client("7")` with it, find
client 7. -/
theorem getClientByIdentifier_spec_shadowed :
    let c₇ : ClientRecord := ⟨[("id", .num 7), ("username", .str "x")], 7, "x", rfl, rfl,
      lt_pow_maxStrDigits (by decide)⟩
    let c₉ : ClientRecord := ⟨[("id", .num 9), ("username", .str "7")], 9, "7", rfl, rfl,
      lt_pow_maxStrDigits (by decide)⟩
    let gw : Gateway Unit :=
      ⟨fun s _ => (.response ⟨200, "", some (.arr [c₇.toJVal, c₉.toJVal])⟩, s)⟩
    ListsClients gw () [c₇, c₉] ∧ expectedClient [c₇, c₉] "7" = some c₇ ∧
      (∀ v w', getClientByIdentifier gw "7" ⟨⟨none, some "k"⟩, [], [], (), []⟩ = .ok v w' →
        v = some c₇.toJVal) ∧
      ∃ w', getClient gw "7" ⟨⟨none, some "k"⟩, [], [], (), []⟩ = .ok (some c₇.toJVal) w' :=
  let c₇ : ClientRecord := ⟨[("id", .num 7), ("username", .str "x")], 7, "x", rfl, rfl,
    lt_pow_maxStrDigits (by decide)⟩
  let c₉ : ClientRecord := ⟨[("id", .num 9), ("username", .str "7")], 9, "7", rfl, rfl,
    lt_pow_maxStrDigits (by decide)⟩
  let gw : Gateway Unit :=
    ⟨fun s _ => (.response ⟨200, "", some (.arr [c₇.toJVal, c₉.toJVal])⟩, s)⟩
  have hlist : ListsClients gw () [c₇, c₉] := fun _ _ _ => ⟨_, rfl, rfl, rfl⟩
  have hexp : expectedClient [c₇, c₉] "7" = some c₇ := rfl
  ⟨hlist, hexp, fun v w' h => by
    rw [(getClientByIdentifier_spec (w := ⟨⟨none, some "k"⟩, [], [], (), []⟩) hlist).1 "7" v w' h,
      hexp]
    rfl, _, rfl⟩

end MsggwManager
