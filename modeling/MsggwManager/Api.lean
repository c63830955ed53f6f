import MsggwManager.Transport
import MsggwManager.Numbers.Parse

/-!
# The gateway's API, as the script calls it

The script sends nine kinds of request (`GET /carriers`, `POST /carriers`, `POST /carriers/reload`,
`GET /clients`, `POST /clients`, `POST /clients/reload`, `PUT /clients/{id}/settings`,
`PATCH /clients/{id}/password`, `POST /clients/{id}/numbers`). The paths and payloads below are
built as the script builds them.

`Endpoint` is what the script is meant to send: one of the nine, with the checks the script makes
before it sends (a carrier has a name and one of the four types; a client has a username, a
password and a type, and a legacy client an address; a settings update sets some of its four
fields, in order; a new password is not empty; a number has eleven `\d` digits). The session
results prove that every request of every session is an `Endpoint`.
-/

namespace MsggwManager

/-! ## Paths and payloads -/

/-- `f"/clients/{client_id}/numbers"`. -/
def numbersPath (clientId : JVal) : String := "/clients/" ++ clientId.toStr ++ "/numbers"

/-- `f"/clients/{client_id}/settings"`. -/
def settingsPath (clientId : JVal) : String := "/clients/" ++ clientId.toStr ++ "/settings"

/-- `f"/clients/{client_id}/password"`. -/
def passwordPath (clientId : JVal) : String := "/clients/" ++ clientId.toStr ++ "/password"

/-- `{"number": num, "carrier": carrier}`. -/
def numberPayload (num carrier : String) : List (String × JVal) :=
  [("number", .str num), ("carrier", .str carrier)]

/-- The record `create_carrier_interactive` posts. -/
def carrierPayload (name type username password : String) (smsLimit mmsLimit : Int) :
    List (String × JVal) :=
  [("name", .str name), ("type", .str type), ("username", .str username),
    ("password", .str password), ("sms_limit", .num smsLimit), ("mms_limit", .num mmsLimit)]

/-- The record `create_client_interactive` posts: `address` only when it is not empty. -/
def clientPayload (username password name type address : String) (smsLimit : Int) :
    List (String × JVal) :=
  [("username", .str username), ("password", .str password), ("name", .str name),
    ("type", .str type), ("sms_limit", .num smsLimit)] ++
  if address.isEmpty then [] else [("address", .str address)]

/-- `{"new_password": new_password}`. -/
def passwordPayload (password : String) : List (String × JVal) := [("new_password", .str password)]

/-- The fields `update_client_settings` may set, in the order it sets them. -/
def settingsKeys : List String :=
  ["api_format", "default_webhook", "webhook_retries", "webhook_timeout_secs"]

/-- The number a request posts, read from a payload laid out as `numberPayload` lays it out. -/
def Request.number? (req : Request) : Option String :=
  match req.payload with
  | some (("number", .str n) :: _) => some n
  | _ => none

theorem Request.number?_of_payload {req : Request} {num carrier : String}
    (h : req.payload = some (numberPayload num carrier)) : req.number? = some num := by
  simp [Request.number?, h, numberPayload]

/-! ## The requests the script is meant to send -/

/-- The requests of the API with the checks the script makes before sending each. -/
inductive Endpoint : Method → String → Option (List (String × JVal)) → Prop
  | listCarriers : Endpoint .get "/carriers" none
  | createCarrier {name type username password : String} {smsLimit mmsLimit : Int}
      (hname : name ≠ "") (htype : type ∈ ["telnyx", "twilio", "bandwidth", "plivo"]) :
      Endpoint .post "/carriers"
        (some (carrierPayload name type username password smsLimit mmsLimit))
  | reloadCarriers : Endpoint .post "/carriers/reload" (some [])
  | listClients : Endpoint .get "/clients" none
  | createClient {username password name type address : String} {smsLimit : Int}
      (husername : username ≠ "") (hpassword : password ≠ "")
      (htype : type = "legacy" ∨ type = "web") (haddress : type = "legacy" → address ≠ "") :
      Endpoint .post "/clients" (some (clientPayload username password name type address smsLimit))
  | reloadClients : Endpoint .post "/clients/reload" (some [])
  | updateSettings {clientId : JVal} {settings : List (String × JVal)} (hne : settings ≠ [])
      (hkeys : (settings.map Prod.fst).Sublist settingsKeys) :
      Endpoint .put (settingsPath clientId) (some settings)
  | changePassword {clientId : JVal} {password : String} (hpassword : password ≠ "") :
      Endpoint .patch (passwordPath clientId) (some (passwordPayload password))
  | addNumber {clientId : JVal} {num carrier : String} (hnum : ValidNumber num) :
      Endpoint .post (numbersPath clientId) (some (numberPayload num carrier))

/-- A request is one the script is meant to send. -/
def Request.IsEndpoint (req : Request) : Prop := Endpoint req.method req.path req.payload

theorem length_numbersPath (clientId : JVal) : 17 ≤ (numbersPath clientId).length := by
  have h₁ : "/clients/".length = 9 := rfl
  have h₂ : "/numbers".length = 8 := rfl
  simp only [numbersPath, String.length_append, h₁, h₂]
  omega

/-- **A post to a numbers path posts a valid number**: no other `POST` of the API has such a path,
since each is shorter. -/
theorem Endpoint.numbersPath_valid {m : Method} {path : String}
    {payload : Option (List (String × JVal))} (h : Endpoint m path payload) (hm : m = .post)
    {clientId : JVal} (hpath : path = numbersPath clientId) :
    ∃ num carrier, payload = some (numberPayload num carrier) ∧ ValidNumber num := by
  have hlen := length_numbersPath clientId
  cases h with
  | addNumber hnum => exact ⟨_, _, rfl, hnum⟩
  | updateSettings | changePassword => cases hm
  | listCarriers | listClients => cases hm
  | createCarrier | reloadCarriers | createClient | reloadClients =>
    rw [← hpath] at hlen
    exact absurd hlen (by decide)

end MsggwManager
