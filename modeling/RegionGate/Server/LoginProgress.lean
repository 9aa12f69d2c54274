import RegionGate.Server.Login

open checked execution stateful regiongate.auth regiongate.codec regiongate.configuration
open regiongate.session regiongate.transport

namespace regiongate.configuration

theorem finish_acknowledged_id {frame : Bytes} (h : parse_finish_acknowledged frame = .ok ()) :
    ∃ body, packet_id frame = .ok (ServerboundFinishConfigurationID, body) := by
  unfold parse_finish_acknowledged at h
  split at h
  · cases h
  · rename_i id body hid
    split at h
    · cases h
    · rename_i hgood
      exact ⟨body, by rw [hid, not_not.mp (not_or.mp hgood).1]⟩

theorem client_setup_id {frame : Bytes} (h : parse_client_setup frame = .ok ()) :
    ∃ id body, packet_id frame = .ok (id, body) ∧ id ≠ ServerboundFinishConfigurationID := by
  unfold parse_client_setup at h
  split at h
  · cases h
  · rename_i id body hid
    refine ⟨id, body, hid, ?_⟩
    rintro rfl
    rw [if_neg (by decide), if_neg (by decide)] at h
    cases h

end regiongate.configuration

namespace regiongate.server.opening

/-- The payloads that the gateway sends. -/
def payloads (events : List transport.Event) : List Bytes := events.filterMap transport.Event.payload

/-- The secret of the switch to encryption. -/
def agreedSecret (events : List transport.Event) : Option Block :=
  events.findSome? fun
    | .Encrypt key _ => some key
    | _ => none

section

variable (p : Primitives) (maxPacketSize : Int)

/-- The frames as a client without encryption sends them. -/
def plain (frames : List Bytes) : Bytes := frames.flatMap (Dialogue.plain p.zlib maxPacketSize)

/-- What the reads return is the client's frames, in whatever pieces. A client that
answers the encryption request enciphers what follows its answer, and sends it
only once it has read the first frame behind the switch. -/
def Carries (frames : List Bytes) (secret : Option Block) (arrivals : List Bytes) : Prop :=
  match secret with
  | none => arrivals.flatten = plain p maxPacketSize frames
  | some secret => ∃ before after, arrivals = before ++ after ∧
      before.flatten = plain p maxPacketSize (frames.take 3) ∧
      after.flatten = encipher p.aes (some (secret.val, secret.val)) (plain p maxPacketSize (frames.drop 3))

/-- The peer and the connection leave the gateway nothing to complain about. -/
structure Smooth (frames : List Bytes) (events : List transport.Event) (arrivals : List Bytes)
    (results : List WriteResult) : Prop where
  small : packet_limit maxPacketSize + packet_limit maxPacketSize / 1000 + 69 < 2 ^ 31
  heard : ∀ frame ∈ frames, Fits maxPacketSize frame
  said : ∀ payload ∈ payloads events, Fits maxPacketSize payload
  carries : Carries p maxPacketSize frames (agreedSecret events) arrivals
  reliable : ∀ r ∈ results, r.err = none ∧ 0 < r.count
  spare : (plain p maxPacketSize (payloads events)).length ≤ results.length

end

section Progress

variable {p : Primitives} {settings : Settings} {c : Circumstances} {maxPacketSize : Int} {frames : List Bytes}
  {events : List transport.Event} {before after : List Bytes} {rest : List Bytes} {input : Bytes} {spare : Nat}
  {d : Dialogue}

/-- The dialogue has come this far in a list of frames that arrives in any pieces. -/
def Going (p : Primitives) (maxPacketSize : Int) (frames : List Bytes) (events : List transport.Event)
    (before after : List Bytes) (input : Bytes) (spare : Nat) (d : Dialogue) : Prop :=
  d.Going p.zlib p.aes maxPacketSize frames events before after input spare

theorem plain_cons (frame : Bytes) (frames : List Bytes) :
    plain p maxPacketSize (frame :: frames) =
      Dialogue.plain p.zlib maxPacketSize frame ++ plain p maxPacketSize frames :=
  List.flatMap_cons

theorem call_ok {ε α : Type} {err : ε → Refusal} {m : Outcome ε α} {value : α} (h : m = .Ok value) :
    (Dialogue.call err m : Opening α) d = .ok value d := by
  rw [h]
  rfl

theorem own_ok {α : Type} {m : Except Error α} {value : α} (h : m = .ok value) : own m d = .ok value d :=
  call_ok (congrArg Outcome.ofExcept h)

/-- The next frame is read, in however many pieces it arrives. -/
theorem Going.read {frame : Bytes}
    (h : Going p maxPacketSize frames events before after (plain p maxPacketSize (frame :: rest)) spare d)
    (hsmall : packet_limit maxPacketSize + packet_limit maxPacketSize / 1000 + 69 < 2 ^ 31)
    (hfits : Fits maxPacketSize frame) :
    ∃ d' before', read_frame p d = .ok frame d' ∧
      Going p maxPacketSize (frames ++ [frame]) events before' after (plain p maxPacketSize rest) spare d' := by
  rw [plain_cons] at h
  exact Dialogue.Going.read h hsmall hfits

/-- The next packet is written, if enough results are there for its bytes. -/
theorem Going.write {payload : Bytes} {more : List Bytes}
    (h : Going p maxPacketSize frames events before after input (plain p maxPacketSize (payload :: more)).length d)
    (hsmall : packet_limit maxPacketSize + packet_limit maxPacketSize / 1000 + 69 < 2 ^ 31)
    (hfits : Fits maxPacketSize payload) :
    ∃ d', write_frame p payload d = .ok () d' ∧
      Going p maxPacketSize frames (events ++ [.Frame payload]) before after input
        (plain p maxPacketSize more).length d' := by
  rw [plain_cons, List.length_append] at h
  exact Dialogue.Going.write h hsmall hfits

/-- Setup packets and the acknowledgement are all read. -/
theorem read_client_configuration_goes {left : Nat} {setups : List Bytes} {finish : Bytes}
    (hsmall : packet_limit maxPacketSize + packet_limit maxPacketSize / 1000 + 69 < 2 ^ 31)
    (hgoing : Going p maxPacketSize frames events before after (plain p maxPacketSize (setups ++ [finish])) spare d)
    (hcount : setups.length < left) (hsetups : ∀ setup ∈ setups, parse_client_setup setup = .ok ())
    (hfinish : parse_finish_acknowledged finish = .ok ())
    (hfits : ∀ frame ∈ setups ++ [finish], Fits maxPacketSize frame) :
    ∃ d' before', read_client_configuration p left d = .ok () d' ∧
      Going p maxPacketSize (frames ++ (setups ++ [finish])) events before' after [] spare d' := by
  induction setups generalizing left frames before d with
  | nil =>
    obtain ⟨left, rfl⟩ := Nat.exists_eq_succ_of_ne_zero (Nat.ne_of_gt hcount)
    obtain ⟨d', before', hread, hgoing'⟩ := hgoing.read hsmall (hfits finish (by simp))
    obtain ⟨body, hid⟩ := finish_acknowledged_id hfinish
    refine ⟨d', before', ?_, hgoing'⟩
    rw [read_client_configuration, bind_ok hread, bind_ok (own_ok hid)]
    dsimp only
    rw [if_pos rfl]
    exact own_ok hfinish
  | cons setup setups ih =>
    obtain ⟨left, rfl⟩ := Nat.exists_eq_succ_of_ne_zero (Nat.ne_of_gt (Nat.zero_lt_of_lt hcount))
    obtain ⟨d₁, before₁, hread, hgoing₁⟩ := hgoing.read hsmall (hfits setup (by simp))
    obtain ⟨id, body, hid, hother⟩ := client_setup_id (hsetups setup (by simp))
    obtain ⟨d', before', hrun, hgoing'⟩ := ih hgoing₁ (Nat.lt_of_succ_lt_succ hcount)
      (fun other hmem => hsetups other (List.mem_cons_of_mem _ hmem))
      (fun frame hmem => hfits frame (List.mem_cons_of_mem _ hmem))
    refine ⟨d', before', ?_, ?_⟩
    · rw [read_client_configuration, bind_ok hread, bind_ok (own_ok hid)]
      dsimp only
      rw [if_neg hother, bind_ok (own_ok (hsetups setup (by simp)))]
      exact hrun
    · rw [List.append_assoc] at hgoing'
      exact hgoing'

theorem payloads_frames (requests : List transport.Event) (welcome : List Bytes) :
    payloads (requests ++ welcome.map .Frame) = payloads requests ++ welcome := by
  have hframes : payloads (welcome.map .Frame) = welcome := by
    rw [payloads, List.filterMap_map]
    exact List.filterMap_some
  rw [payloads, List.filterMap_append, ← payloads, ← payloads, hframes]

/-- The frames of the client that arrive before the gateway switches to
encryption, out of its answers and what follows them. -/
def early (requests : List transport.Event) (answers late : List Bytes) : List Bytes :=
  if agreedSecret requests = none then answers ++ late else answers

/-- Where the arrivals of a client divide. -/
theorem Carries.split {username greeting frame : Bytes} {answers late arrivals welcome : List Bytes}
    {requests : List transport.Event} {identity : forwarding.PlayerIdentity}
    (hidentified : Identified p settings c username answers requests identity)
    (h : Carries p maxPacketSize (greeting :: frame :: answers ++ late)
      (agreedSecret (requests ++ welcome.map .Frame)) arrivals) :
    ∃ before after, arrivals = before ++ after ∧
      before.flatten = plain p maxPacketSize (greeting :: frame :: early requests answers late) ∧
      ∀ secret, agreedSecret requests = some secret →
        after.flatten = encipher p.aes (some (secret.val, secret.val)) (plain p maxPacketSize late) := by
  cases hidentified with
  | offline hmode =>
    have hnone : agreedSecret (welcome.map .Frame) = none := by
      rw [agreedSecret, List.findSome?_map, List.findSome?_eq_none_iff]
      intro _ _
      rfl
    rw [List.nil_append, hnone] at h
    exact ⟨arrivals, [], (List.append_nil _).symm, h, fun secret hsecret => by cases hsecret⟩
  | online hmode hproves =>
    obtain ⟨before, after, harrivals, hbefore, hafter⟩ := h
    refine ⟨before, after, harrivals, hbefore, fun secret hsecret => ?_⟩
    cases hsecret
    exact hafter

/-- A client that proves itself is identified. -/
theorem authenticate_online_goes {a : Authenticator} {username answer : Bytes} {token : VerifyToken} {secret : Block}
    {profile : Profile} {late more : List Bytes} (hproves : Proves p c a username token answer secret profile)
    (hsmall : packet_limit maxPacketSize + packet_limit maxPacketSize / 1000 + 69 < 2 ^ 31)
    (hanswer : Fits maxPacketSize answer) (hrequest : Fits maxPacketSize (request a token))
    (hafter : after.flatten = encipher p.aes (some (secret.val, secret.val)) (plain p maxPacketSize late))
    (hgoing : Going p maxPacketSize frames [] before after (plain p maxPacketSize [answer])
      (plain p maxPacketSize (request a token :: more)).length d) :
    ∃ d' before', authenticate_online p c a username c.remote_host d =
        .ok ⟨c.remote_host, profile.uuid, profile.username, profile.properties⟩ d' ∧
      Going p maxPacketSize (frames ++ [answer]) [.Frame (request a token), .Encrypt secret secret] before' []
        (plain p maxPacketSize late) (plain p maxPacketSize more).length d' := by
  obtain ⟨hrandom, ⟨response, hresponse, hsecret, htoken⟩, hsession⟩ := hproves
  obtain ⟨d₁, hwrite, hgoing₁⟩ := hgoing.write hsmall hrequest
  obtain ⟨d₂, before₂, hread, hgoing₂⟩ := hgoing₁.read hsmall hanswer
  obtain ⟨d₃, hencrypt, hgoing₃⟩ := hgoing₂.encrypt Refusal.Gateway secret.property secret.property
  rw [hafter, decipher_encipher] at hgoing₃
  have hbegin : a.begin_challenge c.random = .ok ⟨a.private_key, a.public_key, token.val⟩ := by
    rw [hrandom]
    rfl
  have hauthenticate : a.authenticate p.sha1 ⟨a.private_key, a.public_key, token.val⟩ username c.remote_host
      response.shared_secret response.verify_token = .Ok (profile, secret.val) :=
    Authenticator.authenticate_eq_ok.mpr ⟨hsecret, secret.property, htoken, hsession⟩
  refine ⟨d₃, _, ?_, hgoing₃⟩
  refine (bind_ok (call_ok (congrArg Outcome.ofExcept hbegin))).trans ((bind_ok hwrite).trans ?_)
  refine (bind_ok hread).trans ((bind_ok (call_ok hresponse)).trans ?_)
  exact (bind_ok (call_ok hauthenticate)).trans (bind_ok hencrypt)

/-- The player is identified without a failure. -/
theorem identify_goes {username : Bytes} {answers late more : List Bytes} {requests : List transport.Event}
    {identity : forwarding.PlayerIdentity} (hidentified : Identified p settings c username answers requests identity)
    (hsmall : packet_limit maxPacketSize + packet_limit maxPacketSize / 1000 + 69 < 2 ^ 31)
    (hanswers : ∀ frame ∈ answers, Fits maxPacketSize frame)
    (hrequests : ∀ payload ∈ payloads requests, Fits maxPacketSize payload)
    (hafter : ∀ secret, agreedSecret requests = some secret →
      after.flatten = encipher p.aes (some (secret.val, secret.val)) (plain p maxPacketSize late))
    (hgoing : Going p maxPacketSize frames [] before after (plain p maxPacketSize (early requests answers late))
      (plain p maxPacketSize (payloads requests ++ more)).length d) :
    ∃ d' before' after', identify p settings c username d = .ok identity d' ∧
      Going p maxPacketSize (frames ++ answers) requests before' after' (plain p maxPacketSize late)
        (plain p maxPacketSize more).length d' := by
  cases hidentified with
  | offline hmode =>
    refine ⟨d, before, after, ?_, ?_⟩
    · rw [identify, hmode]
      rfl
    · rw [List.append_nil]
      exact hgoing
  | online hmode hproves =>
    obtain ⟨d', before', hrun, hgoing'⟩ := authenticate_online_goes hproves hsmall (hanswers _ (by simp))
      (hrequests _ (by simp [payloads, transport.Event.payload])) (hafter _ rfl) hgoing
    refine ⟨d', before', [], ?_, hgoing'⟩
    rw [identify, hmode]
    exact hrun

/-- The login goes through to Limbo without a failure. -/
theorem serve_login_goes {greeting frame acknowledged registry : Bytes} {start : login.Start}
    {answers configuration : List Bytes} {requests : List transport.Event} {identity : forwarding.PlayerIdentity}
    (hsmall : packet_limit maxPacketSize + packet_limit maxPacketSize / 1000 + 69 < 2 ^ 31)
    (hstart : login.parse_start frame = .Ok start)
    (hidentified : Identified p settings c start.username answers requests identity)
    (hacknowledged : login.parse_acknowledged acknowledged = .ok ()) (hconfigures : Configures configuration)
    (hregistry : registry_data_payload minimal_registry_data = .ok registry)
    (hheard : ∀ heard ∈ frame :: answers ++ acknowledged :: configuration, Fits maxPacketSize heard)
    (hsaid : ∀ payload ∈ payloads requests ++ welcome identity registry, Fits maxPacketSize payload)
    (hafter : ∀ secret, agreedSecret requests = some secret → after.flatten =
      encipher p.aes (some (secret.val, secret.val)) (plain p maxPacketSize (acknowledged :: configuration)))
    (hgoing : Going p maxPacketSize [greeting] [] before after
      (plain p maxPacketSize (frame :: early requests answers (acknowledged :: configuration)))
      (plain p maxPacketSize (payloads requests ++ welcome identity registry)).length d) :
    ∃ d' before' after', serve_login p settings c d = .ok (identity, ⟨.LimboPlay, none⟩) d' ∧
      Going p maxPacketSize (greeting :: frame :: answers ++ acknowledged :: configuration)
        (requests ++ (welcome identity registry).map .Frame) before' after' [] 0 d' := by
  obtain ⟨setups, finish, rfl, hcount, hsetups, hfinish⟩ := hconfigures
  obtain ⟨d₁, before₁, hread₁, hgoing₁⟩ := hgoing.read hsmall (hheard _ (by simp))
  obtain ⟨d₂, before₂, after₂, hidentify, hgoing₂⟩ := identify_goes hidentified hsmall
    (fun heard hmem => hheard heard (by simp [hmem])) (fun payload hmem => hsaid payload (by simp [hmem]))
    hafter hgoing₁
  obtain ⟨d₃, hwrite₃, hgoing₃⟩ := hgoing₂.write hsmall (hsaid _ (by simp [welcome]))
  obtain ⟨d₄, before₄, hread₄, hgoing₄⟩ := hgoing₃.read hsmall (hheard _ (by simp))
  obtain ⟨d₅, hwrite₅, hgoing₅⟩ := hgoing₄.write hsmall (hsaid _ (by simp [welcome]))
  obtain ⟨d₆, hwrite₆, hgoing₆⟩ := hgoing₅.write hsmall (hsaid _ (by simp [welcome]))
  obtain ⟨d', before', hsetup, hgoing'⟩ := read_client_configuration_goes hsmall hgoing₆ (Nat.lt_succ_of_le hcount)
    hsetups hfinish fun heard hmem => hheard heard (List.mem_append_right _ (List.mem_cons_of_mem _ hmem))
  refine ⟨d', before', after₂, ?_, ?_⟩
  · have hlogin : Session.new.transition .Login = .ok ⟨.Login, none⟩ := rfl
    have hconfiguration : Session.transition ⟨.Login, none⟩ .Configuration = .ok ⟨.Configuration, none⟩ := rfl
    have hlimbo : Session.transition ⟨.Configuration, none⟩ .LimboPlay = .ok ⟨.LimboPlay, none⟩ := rfl
    rw [serve_login, bind_ok (own_ok hlogin), bind_ok hread₁, bind_ok (call_ok hstart), bind_ok hidentify,
      bind_ok hwrite₃, bind_ok hread₄, bind_ok (own_ok hacknowledged), bind_ok (own_ok hconfiguration),
      bind_ok (own_ok hregistry), bind_ok hwrite₅, bind_ok hwrite₆, bind_ok hsetup, bind_ok (own_ok hlimbo)]
    rfl
  · simpa [welcome, plain] using hgoing'

/-- A dialogue that admits a player runs to its end. -/
theorem serve_conn_goes {frames arrivals : List Bytes} {results : List WriteResult} {events : List transport.Event}
    {identity : forwarding.PlayerIdentity} (hadmitted : Admitted p settings c frames events identity)
    (hsmooth : Smooth p maxPacketSize frames events arrivals results) :
    ∃ d before after, serve_conn p settings c (.start maxPacketSize arrivals results) =
        .ok (some (identity, ⟨.LimboPlay, none⟩)) d ∧
      Going p maxPacketSize frames events before after [] 0 d := by
  obtain ⟨hgreets, hallowed, hstart, hidentified, hacknowledged, hconfigures, hregistry⟩ := hadmitted
  obtain ⟨hsmall, hheard, hsaid, hcarries, hreliable, hspare⟩ := hsmooth
  obtain ⟨before, after, rfl, hbefore, hafter⟩ := hcarries.split hidentified
  rw [payloads_frames] at hsaid hspare
  have hgoing : Going p maxPacketSize [] [] before after _ _ (.start maxPacketSize (before ++ after) results) :=
    ⟨Dialogue.start_at _ _, rfl, Dialogue.awaits_start _ hbefore, hreliable, hspare, rfl⟩
  obtain ⟨d₁, before₁, hread, hgoing₁⟩ := hgoing.read hsmall (hheard _ (by simp))
  obtain ⟨d, before₂, after₂, hlogin, hgoing₂⟩ := serve_login_goes hsmall hstart hidentified hacknowledged hconfigures
    hregistry (fun heard hmem => hheard heard (List.mem_cons_of_mem _ hmem)) hsaid hafter hgoing₁
  obtain ⟨packet, hparse, hversion, hnext⟩ := hgreets
  refine ⟨d, before₂, after₂, ?_, hgoing₂⟩
  rw [serve_conn, bind_ok hread, bind_ok (call_ok hparse), if_neg (not_not.mpr hversion),
    if_neg (by rw [hnext]; decide), if_pos hnext, if_neg (not_not.mpr hallowed), bind_ok hlogin]
  rfl

end Progress

end regiongate.server.opening
