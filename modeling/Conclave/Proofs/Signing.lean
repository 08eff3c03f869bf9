import Conclave.Proofs.Atomicity
import Conclave.Proofs.Deadlines
import Conclave.Proofs.Gate
import Conclave.Proofs.RoundTrip
import Conclave.Proofs.Spellings
import Mathlib.Data.String.Basic

namespace Conclave

namespace Rehearsal

section Notices

variable {m : Moment} {s : SessionId} {r : Rehearsal}

theorem notices_foldl {α : Type} {f : Rehearsal → α → Rehearsal}
    (keeps : ∀ r a, (f r a).notices = r.notices) (l : List α) :
    (l.foldl f r).notices = r.notices := by
  induction l generalizing r with
  | nil => rfl
  | cons a rest ih => rw [List.foldl_cons, ih, keeps]

theorem notices_resolve (outcome : Outcome) : (r.resolve s outcome).notices = r.notices := by
  unfold resolve
  split <;> rfl

theorem notices_poll : (r.poll m s).notices = r.notices := by
  unfold poll
  split
  · rfl
  · exact notices_resolve _

theorem notices_pollAll : (r.pollAll m).notices = r.notices :=
  notices_foldl (fun _ _ => notices_poll) _

theorem notices_expire : (r.expire m s).notices = r.notices := by
  unfold expire
  split
  · rfl
  · exact notices_resolve _

theorem notices_cancel : (r.cancel m s).notices = r.notices := by
  unfold cancel
  split
  · rfl
  · exact notices_resolve _

theorem notices_watch (deadline : Duration) (patience : Option Nat) :
    (r.watch m s deadline patience).notices = r.notices := by
  unfold watch
  dsimp only
  split
  · exact notices_poll
  split
  · exact notices_cancel.trans notices_poll
  split
  · exact notices_expire.trans notices_poll
  · cases patience <;> exact notices_poll

theorem notices_acknowledged : (r.acknowledged m s).notices = r.notices := by
  unfold acknowledged
  split
  · rfl
  split
  · dsimp only
    split
    · rfl
    · exact notices_cancel
  · exact notices_watch _ _

theorem notices_answer (reply : Reply) : (r.answer m s reply).notices = r.notices := by
  unfold answer
  split
  · rfl
  · exact notices_resolve _
  · exact notices_acknowledged

theorem notices_sweep (reaper : Reaper) (origin : Nat) :
    (r.sweep m reaper origin).notices = r.notices := by
  unfold sweep
  split
  · rfl
  · dsimp only
    split <;> rfl

theorem notices_fire (e : Event) : (r.fire m e).notices = r.notices := by
  cases e with
  | reply s reply => exact notices_answer reply
  | publication s result => rfl
  | deadline s => exact notices_expire
  | withdrawal s => exact notices_cancel
  | sweep reaper origin => exact notices_sweep reaper origin

theorem notices_settle : (r.settle m).notices = r.notices :=
  (notices_foldl (fun _ e => notices_pollAll.trans (notices_fire e)) _).trans notices_pollAll

theorem notices_awaitReply (script : Script) : (r.awaitReply m s script).notices = r.notices := by
  unfold awaitReply
  dsimp only
  split
  · rfl
  · split
    · exact notices_answer _
    · rfl

theorem notices_foresee (n : Notice) (script : Script) :
    (r.foresee m n script).notices = r.notices := by
  unfold foresee
  refine notices_foldl ?_ _
  exact fun _ _ => rfl

theorem notices_notify (n : Notice) : (r.notify m n).notices = r.notices ++ [n] := by
  unfold notify
  refine (notices_foldl ?_ _).trans (notices_foldl ?_ _)
  · exact fun _ _ => rfl
  · exact fun _ _ => rfl

theorem notices_launch (orderly : r.Orderly m) (errand : Errand) {request : Session.Request}
    (deadline : Duration) {parties : List NodeId} (valid : request.validate = .ok ())
    (chosen : r.coordinator.chosen r.nextSession (fun _ => 0) request = .ok parties) :
    (r.launch m errand request deadline).2.notices =
      r.notices ++ [request.notice r.nextSession parties] := by
  have gone : r.coordinator.standing r.nextSession = none :=
    (orderly.unheard (r.minted + 1) (Nat.lt_succ_self _)).1.standing
  obtain ⟨channel, bus, subscribed⟩ := Coordinator.subscribe_of_gone orderly.sane.linked gone
  have result := Coordinator.start_of_chosen m.wall valid chosen subscribed
  simp only [launch, result, notices_settle, notices_foresee, notices_awaitReply, notices_notify]
  simp only [enroll, mint, valid, Except.isOk, Except.toBool, if_true]
  rfl

end Notices

theorem Orderly.resting {m : Moment} {r : Rehearsal} (orderly : r.Orderly m) : r.Resting m := by
  constructor
  · rw [Agenda.due, List.filter_eq_nil_iff.2, List.map_nil]
    intro e he
    simpa using (orderly.ahead e he).1
  · intro s hs
    rw [Coordinator.receive_of_quiet orderly.sane.linked m.wall
      (orderly.attended s (mem_receiving.1 hs))]

theorem answerTo?_enroll (r : Rehearsal) (response : Api.Response) :
    (r.enroll (answered response)).2.answerTo? (r.enroll (answered response)).1 =
      some (.response response) := by
  simp only [answerTo?, enroll, Keyed.get?_insert, if_true]
  rfl

structure Script.Accepts (budget : Duration) (script : Script) : Prop where
  taken : ∃ message session, script.reaction = .acknowledge true message session
  prompt : script.delay ≤ budget.millis

theorem Script.Accepts.verdict {budget : Duration} {script : Script} (accepts : script.Accepts budget)
    (s : SessionId) : (script.verdict s budget).1 = script.delay ∧
      (script.verdict s budget).2.outcome budget = .ok () := by
  obtain ⟨message, session, reaction⟩ := accepts.taken
  have verdict : script.verdict s budget = (script.delay, .ack ⟨session.getD s, true, message⟩) := by
    rw [Script.verdict, reaction]
    exact if_pos accepts.prompt
  rw [verdict]
  exact ⟨rfl, rfl⟩

structure Signed (s : SessionId) (clock : Nat) (script : Script) (past : List (Nat × Deed))
    (bytes : List UInt8) (recovery : Option UInt8) (t : Nat) : Prop where
  published : Tidings s .sign clock script past t (.ok (.signature bytes recovery))
  first : ∀ t' o, Tidings s .sign clock script past t' o → t' ≤ t → o = .ok (.signature bytes recovery)

section Signatures

variable {m m' : Moment} {r r' : Rehearsal} {request : Session.Request} {parties : List NodeId}
  {past : List (Nat × Deed)} {errand : Errand} {deadline : Duration} {bytes : List UInt8}
  {recovery : Option UInt8} {t : Nat}

theorem answer_of_signed (action : request.action = .sign) (other : errand ≠ .start)
    (course : CourseOf m r (.launching errand r.nextSession request deadline parties) past m'.clock
      (r'.scene r.nextSession))
    (accepts : r.script.Accepts r.coordinator.config.dispatchTimeout)
    (signed : Signed r.nextSession m.clock r.script past bytes recovery t)
    (prompt : t < m.clock + r.script.delay + deadline.millis) (come : t ≤ m'.clock)
    (ready : m.clock + r.script.delay ≤ m'.clock) :
    r'.answerTo? r.callers.size = some (errand.answer
      (.ok ⟨r.nextSession, parties, .signature bytes recovery⟩)) := by
  obtain ⟨delay, accepted⟩ := accepts.verdict r.nextSession
  have delay : r.verdict.1 = r.script.delay := delay
  have accepted : r.verdict.2.outcome r.coordinator.config.dispatchTimeout = .ok () := accepted
  -- the reply has come and accepts, so that the caller waits for the result or has been told it
  cases course with
  | dispatching h expecting =>
      cases expecting with
      | later early _ _ _ => omega
      | present _ next => cases next
  | refused f _ refusal _ => cases accepted.symm.trans refusal
  | held _ _ start _ => exact absurd start other
  | attending _ _ _ h =>
      have published : Tidings r.nextSession request.action m.clock r.script past t
          (.ok (.signature bytes recovery)) := action ▸ signed.published
      cases h with
      | receiving h =>
          rcases h.ledger.pending rfl t _ (.tidings published) with early | ⟨-, e, he, -⟩
          · omega
          · cases he
      | told outcome foremost told =>
          obtain ⟨t', ending, -, least⟩ := foremost
          have sooner : t' ≤ t := least t _ (.tidings published)
          cases ending with
          | tidings tidings =>
              have tidings : Tidings r.nextSession .sign m.clock r.script past t' outcome :=
                action ▸ tidings
              obtain rfl := signed.first t' outcome tidings sooner
              exact told.answer
          | overdue =>
              have late : m.clock + r.verdict.1 + deadline.millis ≤ t := sooner
              omega
          | withdrawn patient => cases patient

end Signatures

end Rehearsal

namespace Api

open Text

open Rehearsal (Moment Script Deed Passage Sparing Signed)

structure Signs (q : Http.Request) (w : SignRequest) : Prop where
  method : q.method = "POST"
  segments : Route.segments q.target = ["api", "v1", "signatures"]
  authorized : Authorized .transactionsSign q.headers
  typed : Http.hasJsonBody q = true
  read : Wire.signRequest.decode (Json.read q.body).1 = .ok w

def Fits (q : Http.Request) : Prop := q.body.utf8ByteSize ≤ bodyLimit

section Signs

variable {q : Http.Request} {w : SignRequest}

theorem Signs.bodyOf (signs : Signs q w) : Api.bodyOf Wire.signRequest q =
    if bodyLimit < q.body.utf8ByteSize then .error (rejection 413) else .ok w := by
  rw [Api.bodyOf, if_pos signs.typed, signs.read]

theorem Signs.begin_eq (signs : Signs q w) (now : Timestamp) (a : App) :
    ∃ c, c.hasPermission .transactionsSign = true ∧ a.begin now q =
      match (do let body ← Api.bodyOf Wire.signRequest q; orRefuse (signCall a.defaults c body)) with
      | .ok call => .ceremony call
      | .error response => .response a response := by
  obtain ⟨c, identified, same⟩ := Context.ofHeaders_of_identified signs.authorized.identified
  have context : contextOf q = .ok c := by rw [contextOf, identified, orRefuse]
  have found : Route.find q.method q.target = .ok .sign := by
    simp [Route.find, signs.segments, Route.ofSegments, signs.method]
  refine ⟨c, ((contextOf_eq_ok context).2 _).2 signs.authorized.permitted, ?_⟩
  rw [begin_of_route (by simp [signs.method]) found, App.serve, context]
  cases Api.bodyOf Wire.signRequest q with
  | error response => rfl
  | ok body =>
      cases call : signCall a.defaults c body <;>
        simp [bind, Except.bind, pure, Except.pure, call, orRefuse]

theorem Signs.begin (signs : Signs q w) (fits : Fits q) (now : Timestamp) (a : App) :
    ∃ c, c.hasPermission .transactionsSign = true ∧ a.begin now q = match signCall a.defaults c w with
      | .ok call => .ceremony call
      | .error e => .response a e.response := by
  obtain ⟨c, permitted, hbegin⟩ := signs.begin_eq now a
  refine ⟨c, permitted, ?_⟩
  rw [hbegin, signs.bodyOf, if_neg (Nat.not_lt.2 fits)]
  cases call : signCall a.defaults c w <;> simp [bind, Except.bind, call, orRefuse]

theorem Signs.begin_vast (signs : Signs q w) (vast : ¬ Fits q) (now : Timestamp) (a : App) :
    a.begin now q = .response a (rejection 413) := by
  obtain ⟨c, -, hbegin⟩ := signs.begin_eq now a
  rw [hbegin, signs.bodyOf, if_pos (Nat.lt_of_not_le vast)]
  rfl

theorem Signs.begin_ceremony (signs : Signs q w) (fits : Fits q) (now : Timestamp) (a : App)
    {d s : List UInt8} (hash : SpellsHex w.messageHash d) (hashed : d ≠ [])
    (share : SpellsBase64 w.shareData s) : ∃ organization,
      a.begin now q = .ceremony ⟨.signature, organization, .sign d s
        (w.totalNodes.getD a.defaults.totalNodes) (w.threshold.getD a.defaults.threshold)⟩ := by
  obtain ⟨c, permitted, hbegin⟩ := signs.begin fits now a
  have call := signCall_eq_ok (d := a.defaults).2 ⟨permitted, d, s,
    readDigest_eq_ok.2 ⟨hash, hashed⟩, readShare_eq_ok.2 share, rfl⟩
  rw [call] at hbegin
  exact ⟨c.organization, hbegin⟩

theorem Signs.begin_refused (signs : Signs q w) (fits : Fits q) (now : Timestamp) (a : App)
    (unread : ¬ IsHex w.messageHash ∨ ¬ ∃ s, SpellsBase64 w.shareData s) :
    ∃ text, a.begin now q = .response a (Error.badRequest text).response := by
  obtain ⟨c, permitted, hbegin⟩ := signs.begin fits now a
  cases call : signCall a.defaults c w with
  | ok call =>
      obtain ⟨-, d, s, digest, share, -⟩ := signCall_eq_ok.1 call
      rcases unread with unread | unread
      · exact absurd (isHex_iff.2 ⟨d, readDigest_eq_ok.1 digest⟩) unread
      · exact absurd ⟨s, readShare_eq_ok.1 share⟩ unread
  | error e =>
      rcases error_of_signCall call with ⟨text, rfl⟩ | ⟨unpermitted, -⟩
      · exact ⟨text, by rw [hbegin, call]⟩
      · rw [permitted] at unpermitted
        cases unpermitted

theorem Signs.request_launches (signs : Signs q w) (fits : Fits q) (m : Moment) (r : Rehearsal)
    {d s : List UInt8} (hash : SpellsHex w.messageHash d) (hashed : d ≠ [])
    (share : SpellsBase64 w.shareData s) :
    ∃ call, call.kind = .signature ∧
      call.request = .sign d s (w.totalNodes.getD r.app.defaults.totalNodes)
        (w.threshold.getD r.app.defaults.threshold) ∧
      r.request m q = r.launch m (.call call) call.request r.coordinator.config.resultTimeout := by
  obtain ⟨organization, hbegin⟩ := signs.begin_ceremony fits m.wall r.app hash hashed share
  exact ⟨_, rfl, rfl, by rw [Rehearsal.request, hbegin]⟩

theorem request_of_refusal {m : Moment} {r : Rehearsal} (orderly : r.Orderly m) {response : Response}
    (hbegin : r.app.begin m.wall q = .response r.app response) :
    (r.request m q).2.answerTo? (r.request m q).1 = some (.response response) ∧
      (r.request m q).2.app = r.app ∧ (r.request m q).2.notices = r.notices := by
  have enrolled : r.request m q = r.enroll (Rehearsal.answered response) := by
    refine (Rehearsal.request_of_response hbegin).trans ?_
    rw [Rehearsal.settle_of_resting (Rehearsal.resting_enroll orderly.resting _)]
  rw [enrolled]
  exact ⟨Rehearsal.answerTo?_enroll r _, rfl, rfl⟩

theorem validate_sign {d s : List UInt8} {total threshold : UInt32} (hashed : d ≠ []) (shared : s ≠ [])
    (positive : 0 < threshold) (reached : threshold ≤ total) :
    (Session.Request.sign d s total threshold).validate = .ok () := by
  have some : threshold ≠ 0 := fun zero => by simp [zero] at positive
  have few : ¬ total < threshold := UInt32.not_lt.2 reached
  simp [Session.Request.validate, Session.Request.sign, Session.Request.isBlank, some, few, hashed,
    shared]

theorem signing_keeps_bytes {app : App} {config : Config} {registry : Registry}
    (unused : app.coordinator = .new config registry) {script : Script} {m₀ m : Moment}
    {r : Rehearsal} {before : List (Nat × Deed)}
    (reached : Passage (fun _ _ => True) m₀ (.new app script) before m r)
    (signs : Signs q w) :
    (Fits q → ∀ d s total threshold, SpellsHex w.messageHash d → d ≠ [] →
      SpellsBase64 w.shareData s → s ≠ [] →
      w.totalNodes.getD r.app.defaults.totalNodes = total →
      w.threshold.getD r.app.defaults.threshold = threshold → 0 < threshold → threshold ≤ total →
      threshold.toNat ≤ r.coordinator.registry.online.length →
      r.script.Accepts config.dispatchTimeout →
      ∃ parties,
        (r.request m q).2.notices = r.notices ++
          [⟨r.nextSession, parties, threshold, .sign, none, some d, some s⟩] ∧
        ∀ past m' r' g recovery t,
          Passage (Sparing r.nextSession) m (r.request m q).2 past m' r' →
          Signed r.nextSession m.clock r.script past g recovery t →
          t < m.clock + r.script.delay + config.resultTimeout.millis → t ≤ m'.clock →
          m.clock + r.script.delay ≤ m'.clock →
          ∃ text, r'.answerTo? (r.request m q).1 = some (.response ⟨200, some
              (Wire.signResponse.encode ⟨r.nextSession, parties, text, recovery⟩)⟩) ∧
            readHex text = .ok g) ∧
    (Fits q → ¬ IsHex w.messageHash ∨ (¬ ∃ s, SpellsBase64 w.shareData s) →
      ∃ text, (r.request m q).2.answerTo? (r.request m q).1 = some (.response ⟨400, some
          (Wire.errorBody.encode ⟨text, "INVALID_REQUEST"⟩)⟩) ∧
        (r.request m q).2.app = r.app ∧ (r.request m q).2.notices = r.notices) ∧
    (¬ Fits q → (r.request m q).2.answerTo? (r.request m q).1 = some (.response ⟨413, none⟩) ∧
      (r.request m q).2.app = r.app ∧ (r.request m q).2.notices = r.notices) := by
  have fresh := Rehearsal.orderly_new unused script m₀
  have orderly := reached.orderly fresh
  have hconfig : r.coordinator.config = config :=
    (reached.keeps fresh).1.trans (congrArg Coordinator.config unused)
  refine ⟨?_, ?_, fun vast => request_of_refusal orderly (signs.begin_vast vast m.wall r.app)⟩
  · intro fits d s total threshold hash hashed share shared htotal hthreshold positive within enough
      accepts
    obtain ⟨call, kind, request, hlaunch⟩ := signs.request_launches fits m r hash hashed share
    rw [htotal, hthreshold] at request
    have valid : call.request.validate = .ok () :=
      request ▸ validate_sign hashed shared positive within
    have enough : call.request.threshold.toNat ≤ r.coordinator.registry.online.length :=
      request ▸ enough
    obtain ⟨parties, chosen⟩ := Coordinator.chosen_of_enough r.nextSession (fun _ => 0) valid enough
    rw [hlaunch]
    refine ⟨parties, ?_, fun past m' r' g recovery t passage signed prompt come ready => ?_⟩
    · rw [Rehearsal.notices_launch orderly _ _ valid chosen, request]
      rfl
    · obtain ⟨-, -, -, course⟩ := Rehearsal.course_of_launch orderly valid chosen passage
      obtain ⟨r₁, ticket, -⟩ := Rehearsal.begins_of_launch orderly (.call call)
        r.coordinator.config.resultTimeout valid chosen
      refine ⟨hex g, ?_, readHex_hex g⟩
      rw [ticket, Rehearsal.answer_of_signed (congrArg Session.Request.action request) (by simp) course
        (hconfig ▸ accepts) signed (hconfig ▸ prompt) come ready]
      simp only [Rehearsal.Errand.answer, Call.finish, kind]
      rfl
  · intro fits unread
    obtain ⟨text, hbegin⟩ := signs.begin_refused fits m.wall r.app unread
    exact ⟨text, request_of_refusal orderly hbegin⟩

end Signs

def signer : List Http.Header :=
  [⟨"x-principal-id", ascii "alice"⟩,
    ⟨"x-organization-id", ascii "00000000-0000-0000-0000-000000000001"⟩,
    ⟨"x-permissions", ascii "transactions:sign"⟩, ⟨"content-type", ascii "application/json"⟩]

theorem signs_of_signer {body : String} {w : SignRequest}
    (read : Wire.signRequest.decode (Json.read body).1 = .ok w) :
    Signs ⟨"POST", "/api/v1/signatures", signer, body⟩ w := by
  have principal : Http.Leads signer "x-principal-id" "alice" :=
    .here rfl (by decide +kernel) (by decide +kernel)
  have organization : Http.Leads signer "x-organization-id" "00000000-0000-0000-0000-000000000001" :=
    .there (by decide +kernel) (.here rfl (by decide +kernel) (by decide +kernel))
  have permissions : Http.Leads signer "x-permissions" "transactions:sign" :=
    .there (by decide +kernel) (.there (by decide +kernel)
      (.here rfl (by decide +kernel) (by decide +kernel)))
  have type : Http.Leads signer "content-type" "application/json" :=
    .there (by decide +kernel) (.there (by decide +kernel) (.there (by decide +kernel)
      (.here rfl (by decide +kernel) (by decide +kernel))))
  have identified : Identified signer :=
    ⟨⟨_, principal, by decide +kernel⟩, ⟨_, ⟨1⟩, organization, by decide +kernel⟩⟩
  have media : Http.MediaType.ofText? "application/json" = some ⟨"application", "json", none⟩ := by
    decide +kernel
  have segments : Route.segments "/api/v1/signatures" = ["api", "v1", "signatures"] := by
    decide +kernel
  have json : Http.hasJsonBody ⟨"POST", "/api/v1/signatures", signer, body⟩ = true := by
    simp only [Http.hasJsonBody, Http.headerText?_eq_some.2 type, Option.bind_some, media]
    decide
  refine ⟨rfl, segments, ⟨identified, _, permissions, "transactions:sign", ?_, ?_⟩, json, read⟩
  · decide +kernel
  · decide +kernel

def signOrder : Http.Request :=
  ⟨"POST", "/api/v1/signatures", signer,
    "\x7b\"message_hash\":\" 0xDEADbeef\",\"share_data\":\"c2hhcmU= \"," ++
      "\"total_nodes\":1,\"threshold\":1\x7d"⟩

def misspelt : Http.Request :=
  ⟨"POST", "/api/v1/signatures", signer,
    "\x7b\"message_hash\":\"0x\",\"share_data\":\"c2hhcmU=\"," ++
      "\"total_nodes\":1,\"threshold\":1\x7d"⟩

def readyToSign : Rehearsal :=
  .new (.new Coordinator.oneNode .standard)
    ⟨[], [⟨none, .signature [0, 255] (some 1), some 100⟩], 30, .acknowledge true none none⟩

theorem signed_readyToSign : Signed ⟨"S1"⟩ 0 readyToSign.script [] [0, 255] (some 1) 100 := by
  have later : readyToSign.script.later .sign = [(100, .signature [0, 255] (some 1))] := rfl
  constructor
  · have published : (100, .signature [0, 255] (some 1)) ∈ readyToSign.script.later .sign :=
      later ▸ List.mem_singleton.2 rfl
    exact .later published
  · intro t o tidings _
    cases tidings with
    | atOnce h => cases h
    | later h =>
        rw [later] at h
        obtain ⟨-, rfl⟩ := Prod.mk.inj (List.mem_singleton.1 h)
        rfl
    | deed h => cases h

theorem signing_keeps_bytes_signOrder :
    Signs signOrder ⟨" 0xDEADbeef", "c2hhcmU= ", some 1, some 1⟩ ∧
      (∃ parties, (readyToSign.request Rehearsal.dawn signOrder).2.notices =
          [⟨⟨"S1"⟩, parties, 1, .sign, none, some [222, 173, 190, 239],
            some [115, 104, 97, 114, 101]⟩] ∧
        ∃ text, ((readyToSign.request Rehearsal.dawn signOrder).2.elapse 100
            Rehearsal.dawn).2.answerTo? (readyToSign.request Rehearsal.dawn signOrder).1 =
          some (.response ⟨200, some (Wire.signResponse.encode ⟨⟨"S1"⟩, parties, text, some 1⟩)⟩) ∧
          readHex text = .ok [0, 255]) ∧
      Signs misspelt ⟨"0x", "c2hhcmU=", some 1, some 1⟩ ∧
      ∃ text, (readyToSign.request Rehearsal.dawn misspelt).2.answerTo?
          (readyToSign.request Rehearsal.dawn misspelt).1 =
        some (.response ⟨400, some (Wire.errorBody.encode ⟨text, "INVALID_REQUEST"⟩)⟩) := by
  have signs : Signs signOrder ⟨" 0xDEADbeef", "c2hhcmU= ", some 1, some 1⟩ :=
    signs_of_signer (by decide +kernel)
  have signs' : Signs misspelt ⟨"0x", "c2hhcmU=", some 1, some 1⟩ :=
    signs_of_signer (by decide +kernel)
  have begins : Passage (fun _ _ => True) Rehearsal.dawn readyToSign [] Rehearsal.dawn readyToSign :=
    .begin
  have hash : SpellsHex " 0xDEADbeef" [222, 173, 190, 239] :=
    readHex_unmark.1 (by decide +kernel)
  have share : SpellsBase64 "c2hhcmU= " [115, 104, 97, 114, 101] :=
    readShare_eq_ok.1 (by decide +kernel)
  have next : readyToSign.nextSession = ⟨"S1"⟩ := by decide +kernel
  have fits : Fits signOrder := by
    unfold Fits
    decide +kernel
  have fits' : Fits misspelt := by
    unfold Fits
    decide +kernel
  have faithful := signing_keeps_bytes rfl begins signs
  obtain ⟨parties, notices, answers⟩ := faithful.1 fits _ _ 1 1 hash (by decide) share (by decide) rfl rfl
    (by decide) (by decide) (by decide +kernel) ⟨⟨_, _, rfl⟩, by decide⟩
  have fresh : readyToSign.Orderly Rehearsal.dawn := Rehearsal.orderly_new rfl _ _
  have orderly := (Rehearsal.acts_perform fresh (.request signOrder)).orderly
  rw [next] at notices answers
  have answered := answers _ _ _ _ _ _ (Rehearsal.passage_elapse orderly 100) signed_readyToSign
    (by decide) (Nat.le_refl _) (by decide)
  have unread : ¬ IsHex "0x" := by
    rw [isHex_iff]
    rintro ⟨d, spelled, some⟩
    have read : readHex (unmark (trim "0x")) = .ok [] := by decide +kernel
    exact some (Except.ok.inj ((readHex_unmark.2 spelled).symm.trans read))
  obtain ⟨text, refused, -⟩ := (signing_keeps_bytes rfl begins signs').2.1 fits' (.inl unread)
  exact ⟨signs, ⟨parties, notices, answered⟩, signs', text, refused⟩

def paddedHash (n : Nat) : String := String.ofList (List.replicate n ' ' ++ ['0', '1'])

theorem spells_paddedHash (n : Nat) : SpellsHex (paddedHash n) [1] := by
  refine ⟨[], ['0', '1'], List.mem_cons_self, ⟨List.replicate n ' ', [], fun c hc => ?_, nofun, ?_⟩,
    by decide +kernel⟩
  · rw [List.eq_of_mem_replicate hc]
    decide
  · rw [paddedHash, String.toList_ofList, List.nil_append, List.append_nil]

theorem length_le_utf8ByteSize (s : String) : s.toList.length ≤ s.utf8ByteSize := by
  rw [← String.utf8Len_toList]
  induction s.toList with
  | nil => exact Nat.le_refl _
  | cons c cs ih =>
      have full := c.utf8Size_pos
      rw [List.length_cons, String.utf8Len]
      omega

def vastRequest : SignRequest := ⟨paddedHash bodyLimit, "Ag==", some 1, some 1⟩

def vastOrder : Http.Request :=
  ⟨"POST", "/api/v1/signatures", signer, Json.write (Wire.signRequest.encode vastRequest)⟩

theorem signs_vastOrder : Signs vastOrder vastRequest := by
  have legible : Json.Legible (Wire.signRequest.encode vastRequest) :=
    Wire.Message.legible_encode .signRequest trivial
  refine signs_of_signer ?_
  rw [Json.read_write _ legible]
  exact Wire.faithful_signRequest _ trivial _ (Wire.Message.varies_self .signRequest _)

theorem vast_vastOrder : ¬ Fits vastOrder := by
  have padded : bodyLimit ≤ (paddedHash bodyLimit).toList.length := by
    rw [paddedHash, String.toList_ofList, List.length_append, List.length_replicate]
    exact Nat.le_add_right _ _
  have written : (paddedHash bodyLimit).toList.length < vastOrder.body.toList.length :=
    Json.length_lt_write_object "message_hash" (paddedHash bodyLimit) _
  have bytes := length_le_utf8ByteSize vastOrder.body
  rw [Fits]
  omega

theorem vast_order_refused :
    Signs vastOrder vastRequest ∧ SpellsHex vastRequest.messageHash [1] ∧
      SpellsBase64 vastRequest.shareData [2] ∧ readyToSign.coordinator.registry.online.length = 1 ∧
      readyToSign.script.Accepts Config.standard.dispatchTimeout ∧
      Signed readyToSign.nextSession 0 readyToSign.script [] [0, 255] (some 1) 100 ∧
      (readyToSign.request Rehearsal.dawn vastOrder).2.answerTo?
        (readyToSign.request Rehearsal.dawn vastOrder).1 = some (.response ⟨413, none⟩) ∧
      (readyToSign.request Rehearsal.dawn vastOrder).2.notices = [] := by
  have share : SpellsBase64 vastRequest.shareData [2] := readShare_eq_ok.1 (by decide +kernel)
  have fresh : readyToSign.Orderly Rehearsal.dawn := Rehearsal.orderly_new rfl _ _
  obtain ⟨answer, -, notices⟩ :=
    request_of_refusal fresh (signs_vastOrder.begin_vast vast_vastOrder _ _)
  have next : readyToSign.nextSession = ⟨"S1"⟩ := by decide +kernel
  exact ⟨signs_vastOrder, spells_paddedHash _, share, by decide +kernel, ⟨⟨_, _, rfl⟩, by decide⟩,
    next ▸ signed_readyToSign, answer, notices⟩

end Api

end Conclave
