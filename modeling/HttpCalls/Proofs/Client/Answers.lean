-- What an exchange makes of a whole response. From 400 to 599 it is a failure that carries the
-- status, the beginning of the body and its format. Every other response is handed out as it is,
-- those from 600 on as well.
import HttpCalls.Proofs.Client.MissingResources
import HttpCalls.Proofs.Text.Cuts

namespace HttpCalls

/-! ## What a failure says of its response -/

/-- A character that may be shown: visible ASCII, a space or a tab. -/
def IsPrintable (c : Char) : Prop := (0x20 ≤ c.toNat ∧ c.toNat < 0x7F) ∨ c = '\t'

theorem HeaderValue.visible?_eq_some {v : HeaderValue} {text : List Char} :
    v.visible? = some text ↔ v.text = text ∧ ∀ c ∈ text, IsPrintable c := by
  unfold HeaderValue.visible? IsPrintable
  split
  · rename_i hall
    simp only [List.all_eq_true, Bool.or_eq_true, Bool.and_eq_true, decide_eq_true_eq] at hall
    constructor
    · rintro ⟨⟩
      exact ⟨rfl, hall⟩
    · rintro ⟨rfl, -⟩
      rfl
  · rename_i hnone
    simp only [List.all_eq_true, Bool.or_eq_true, Bool.and_eq_true, decide_eq_true_eq] at hnone
    constructor
    · rintro ⟨⟩
    · rintro ⟨rfl, hall⟩
      exact absurd hall hnone

theorem Response.contentType?_eq_some {r : Response} {text : List Char} :
    r.contentType? = some text ↔ ∃ value more, r.headers.values .contentType = value :: more ∧
      value.text = text ∧ ∀ c ∈ text, IsPrintable c := by
  unfold Response.contentType?
  cases r.headers.values .contentType with
  | nil => simp
  | cons value more => simp [HeaderValue.visible?_eq_some]

/-- What a failure says of the response that it stands for. -/
structure Reports (r : Response) (status : Status) (preview : List Char)
    (contentType : Option (List Char)) : Prop where
  same_status : status = r.status
  begins : preview = Utf8.lossy (r.body.take 8192)
  /-- A body that spells a text shows what the text has before the cut. -/
  shown : ∀ text, r.body = Utf8.encode text → Utf8.ShownWithin 8192 text preview
  /-- The first content type is carried if it can be shown. -/
  format : ∀ text, contentType = some text ↔ ∃ value more,
    r.headers.values .contentType = value :: more ∧ value.text = text ∧ ∀ c ∈ text, IsPrintable c

theorem reports_statusFailure (r : Response) :
    ∃ status preview contentType,
      statusFailure r = .status status preview contentType ∧
        Reports r status preview contentType := by
  refine ⟨_, _, _, rfl, rfl, rfl, fun text htext => ?_, fun text => Response.contentType?_eq_some⟩
  rw [htext]
  exact Utf8.shownWithin_lossy_take 8192 text

/-! ## The law -/

theorem Status.isFailure_iff (s : Status) : s.isFailure = true ↔ 400 ≤ s.code ∧ s.code < 600 := by
  simp [Status.isFailure]

theorem judge_fits {s : HttpSettings} {r : Response} (h : r.body.length ≤ s.maxBodySize) :
    s.judge (.answered r) = if r.status.isFailure then .error (statusFailure r) else .ok r :=
  if_neg (Nat.not_lt.mpr h)

variable {ω : Type}

theorem redeem_answered {n : Network ω} {c : HttpClient} {request : Request} {outside : ω}
    {r : Response} (h : c.Answered n (HttpTicket.issue .exchange request).request outside r)
    (hfits : r.body.length ≤ c.settings.maxBodySize) :
    ((HttpTicket.issue .exchange request).redeem n c outside).1 =
      [if r.status.isFailure then .error (.transport (statusFailure r)) else .ok (.response r)] := by
  have hresult := (send_answered h).trans (judge_fits hfits)
  unfold HttpTicket.redeem
  simp only [hresult]
  split <;> rfl

/-- A whole response that the client takes makes one item of its exchange. From 400 to 599 it is a
failure that reports the response, and the response itself otherwise, also from 600 on. -/
theorem an_exchange_fails_from_400_to_599 (settings : HttpSettings) (n : Network ω)
    (platform : Platform) (client : HttpClient) (request : Request) (outside : ω) (r : Response)
    (hanswered : client.Answered n (HttpTicket.issue .exchange request).request outside r)
    (hfits : r.body.length ≤ client.settings.maxBodySize) :
    let t := httpTransport settings n platform
    let ticket := (t.start .exchange request outside).1
    ∃ item, (t.redeem ticket client outside).1 = [.item item] ∧
      ((∃ e, item = .error e) ↔ 400 ≤ r.status.code ∧ r.status.code < 600) ∧
      (∀ e, item = .error e → ∃ status preview contentType,
        e = .transport (.status status preview contentType) ∧
          Reports r status preview contentType) ∧
      (∀ reply, item = .ok reply → reply = .response r) := by
  intro t ticket
  have hitems : (t.redeem ticket client outside).1 =
      ((HttpTicket.issue .exchange request).redeem n client outside).1.map .item := rfl
  rw [redeem_answered hanswered hfits] at hitems
  refine ⟨_, hitems, ?_⟩
  rw [← Status.isFailure_iff]
  cases r.status.isFailure with
  | true =>
    simp only [if_true]
    refine ⟨by simp, fun e he => ?_, fun reply hreply => nomatch hreply⟩
    cases he
    obtain ⟨status, preview, contentType, hfailure, hreports⟩ := reports_statusFailure r
    exact ⟨status, preview, contentType, by rw [hfailure], hreports⟩
  | false =>
    simp only [if_false, Bool.false_eq_true]
    refine ⟨by simp, fun e he => (nomatch he), fun reply hreply => ?_⟩
    cases hreply
    rfl

/-- A status without a class is no failure, whereas the last one of the last class is. -/
theorem a_status_of_600_is_a_response :
    let url : Url := { scheme := "https".toList, authority := some "users.example".toList,
                       path := ['/'], query := none, fragment := none }
    let client : HttpClient :=
      { service := ⟨["users"]⟩, balancer := .fixed (.ofUrl url), codec := {}, userAgent := .json
        settings := {} }
    let request := mappedRequest "" ⟨.get, "/7"⟩ []
    let answer (status : Status) : Response :=
      { status, headers := [(.contentType, .json)], body := Utf8.ofString "odd" }
    let n (status : Status) : Network Unit := { send := fun _ _ => (.answered (answer status), ()) }
    let arrivals (status : Status) :=
      ((httpTransport {} (n status)).redeem (.issue .exchange request) client ()).1
    arrivals ⟨600, by decide⟩ = [.item (.ok (.response (answer ⟨600, by decide⟩)))] ∧
      ∃ e, arrivals ⟨599, by decide⟩ = [.item (.error e)] := by
  intro url client request answer n arrivals
  have hlaw (status : Status)
      (hsent : (client.prepare (HttpTicket.issue .exchange request).request).1.toOption.isSome) :=
    an_exchange_fails_from_400_to_599 {} (n status) {} client request () (answer status)
      ⟨rfl, (Option.isSome_iff_exists.mp hsent).imp fun _ hout => ⟨toOption_eq_some.mp hout, rfl⟩⟩
      (by show 3 ≤ 10 * 1024 * 1024; decide)
  have hsent : (client.prepare (HttpTicket.issue .exchange request).request).1.toOption.isSome := by
    decide +kernel
  constructor
  · obtain ⟨item, hitem, hfails, -, hreply⟩ := hlaw ⟨600, by decide⟩ hsent
    rcases item with e | reply
    · exact absurd (hfails.mp ⟨e, rfl⟩).2 (by decide)
    · rw [hreply reply rfl] at hitem
      exact hitem
  · obtain ⟨item, hitem, hfails, -, -⟩ := hlaw ⟨599, by decide⟩ hsent
    obtain ⟨e, rfl⟩ := hfails.mpr (by decide)
    exact ⟨e, hitem⟩

end HttpCalls
