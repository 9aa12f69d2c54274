import RegionGate.Codec.Compression
import RegionGate.Protocol.Checked
import RegionGate.Protocol.Handshake

open checked regiongate.codec

namespace regiongate.login

theorem read_string_safe (data : Bytes) (maxChars : Nat) :
    (read_string data maxChars).Safe fun result => result.2 ≤ data.length := by
  unfold read_string
  apply (safe_consume_var_int _ data).bind
  rintro ⟨length, used⟩ hused
  apply Outcome.Safe.guarded
  intro _
  apply Outcome.Safe.guarded
  intro hfits
  apply (safe_slice (by omega) (by omega)).bind
  intro value _
  cases rune_count value with
  | none => trivial
  | some count =>
    apply Outcome.Safe.guarded
    intro _
    exact Nat.le_of_not_gt hfits

theorem consume_byte_array_safe (data : Bytes) (limit : Nat) :
    (consume_byte_array data limit).Safe fun result => result.2 ≤ data.length := by
  unfold consume_byte_array
  apply (safe_consume_var_int _ data).bind
  rintro ⟨length, used⟩ hused
  apply Outcome.Safe.guarded
  intro _
  apply Outcome.Safe.guarded
  intro hfits
  apply (safe_slice (by omega) (by omega)).bind
  intro value _
  exact Nat.le_of_not_gt hfits

/-- `ParseEncryptionRequest` does not panic: every offset comes from a reader that
stays within its input. -/
theorem parse_encryption_request_safe (payload : Bytes) :
    (parse_encryption_request payload).Safe fun _ => True := by
  unfold parse_encryption_request
  apply (safe_packet_id _ payload).bind
  rintro ⟨id, body⟩ _
  apply Outcome.Safe.guarded
  intro _
  apply (read_string_safe body 20).bind
  rintro ⟨server_id, used⟩ hused
  apply (safe_sliceFrom hused).bind
  intro body _
  apply (consume_byte_array_safe body _).bind
  rintro ⟨public_key, used⟩ hused
  apply (safe_sliceFrom hused).bind
  intro body _
  apply (consume_byte_array_safe body _).bind
  rintro ⟨verify_token, used⟩ hused
  apply (safe_sliceFrom hused).bind
  intro body _
  apply Outcome.Safe.guarded
  intro hone
  apply (safe_index (by omega)).bind
  intro flag _
  apply Outcome.Safe.guarded
  intro _
  trivial

theorem parse_encryption_response_safe (payload : Bytes) :
    (parse_encryption_response payload).Safe fun _ => True := by
  unfold parse_encryption_response
  apply (safe_packet_id _ payload).bind
  rintro ⟨id, body⟩ _
  apply Outcome.Safe.guarded
  intro _
  apply (consume_byte_array_safe body _).bind
  rintro ⟨shared_secret, used⟩ hused
  apply (safe_sliceFrom hused).bind
  intro body _
  apply (consume_byte_array_safe body _).bind
  rintro ⟨verify_token, used⟩ _
  apply Outcome.Safe.guarded
  intro _
  trivial

theorem parse_plugin_request_safe (payload : Bytes) :
    (parse_plugin_request payload).Safe fun _ => True := by
  unfold parse_plugin_request
  apply (safe_packet_id _ payload).bind
  rintro ⟨id, body⟩ _
  apply Outcome.Safe.guarded
  intro _
  apply (safe_consume_var_int _ body).bind
  rintro ⟨message_id, used⟩ hused
  apply Outcome.Safe.guarded
  intro _
  apply (safe_sliceFrom hused).bind
  intro body _
  apply (safe_consume_string _ body 32767).bind
  rintro ⟨channel, used⟩ hused
  apply (safe_sliceFrom hused).bind
  intro data _
  trivial

theorem parse_start_safe (payload : Bytes) : (parse_start payload).Safe fun _ => True := by
  unfold parse_start
  apply (safe_packet_id _ payload).bind
  rintro ⟨id, body⟩ _
  apply Outcome.Safe.guarded
  intro _
  apply (read_string_safe body 16).bind
  rintro ⟨username, used⟩ hused
  apply Outcome.Safe.guarded
  intro _
  apply Outcome.Safe.guarded
  intro _
  apply (safe_sliceFrom hused).bind
  intro uuid _
  trivial

theorem read_uuid_safe (payload : Bytes) : (read_uuid payload).Safe fun _ => True := by
  unfold read_uuid
  apply (safe_packet_id _ payload).bind
  rintro ⟨id, body⟩ _
  apply Outcome.Safe.guarded
  intro hbody
  have hsixteen : 16 ≤ body.length := by omega
  apply (safe_slice (Nat.zero_le 16) hsixteen).bind
  intro uid _
  apply (safe_sliceFrom hsixteen).bind
  intro rest hrest
  apply (read_string_safe rest 16).bind
  rintro ⟨username, used⟩ hused
  have hstop : 16 + used ≤ body.length := by
    dsimp only at hused
    omega
  apply (safe_sliceFrom hstop).bind
  intro rest _
  apply Outcome.Safe.guarded
  intro _
  apply (safe_consume_var_int _ rest).bind
  rintro ⟨properties, used_properties⟩ _
  apply Outcome.Safe.guarded
  intro _
  trivial

/-- Whatever JSON decoding makes of the reason, its framing is read safely. -/
theorem parse_disconnect_reason_safe (component_text : Bytes → Option Bytes) (payload : Bytes) :
    (parse_disconnect_reason component_text payload).Safe fun _ => True := by
  unfold parse_disconnect_reason
  rw [packet_id_checked_eq]
  cases packet_id payload with
  | error e => trivial
  | ok packet =>
    obtain ⟨id, body⟩ := packet
    simp only [Outcome.ofExcept_ok, Outcome.caught, Outcome.ok_bind, consume_string_checked_eq]
    split
    · trivial
    · cases consume_string body 32767 with
      | error e => trivial
      | ok result =>
        obtain ⟨message, used⟩ := result
        simp only [Outcome.ofExcept_ok, Outcome.ok_bind]
        repeat' split
        all_goals trivial

end regiongate.login

namespace regiongate.handshake

theorem read_string_safe (data : Bytes) (maxChars : Nat) :
    (read_string data maxChars).Safe fun result => result.2 ≤ data.length := by
  rw [read_string_eq]
  exact (login.read_string_safe data maxChars).mapError _

/-- `Parse` does not panic; the two bytes of the port are there when they are indexed. -/
theorem parse_safe (payload : Bytes) : (parse payload).Safe fun _ => True := by
  unfold parse
  apply (safe_packet_id _ payload).bind
  rintro ⟨id, body⟩ _
  apply Outcome.Safe.guarded
  intro _
  apply (safe_consume_var_int _ body).bind
  rintro ⟨version, used⟩ hused
  apply (safe_sliceFrom hused).bind
  intro body _
  apply (read_string_safe body 255).bind
  rintro ⟨address, used⟩ hused
  apply (safe_sliceFrom hused).bind
  intro body _
  apply Outcome.Safe.guarded
  intro htwo
  have hport : (uint16 body).Safe fun _ => True := by
    unfold uint16
    apply (safe_index (by omega)).bind
    intro low _
    apply (safe_index (by omega)).bind
    intro high _
    trivial
  apply hport.bind
  intro port _
  apply (safe_sliceFrom (by omega)).bind
  intro body _
  apply (safe_consume_var_int _ body).bind
  rintro ⟨next, used⟩ hused
  apply (safe_sliceFrom hused).bind
  intro rest _
  apply Outcome.Safe.guarded
  intro _
  trivial

end regiongate.handshake

namespace regiongate

private theorem ofExcept_ne_panic {ε α : Type} (m : Except ε α) : Outcome.ofExcept m ≠ .Panic := by
  cases m <;> simp [Outcome.ofExcept]

/-- No frame makes a parser index or slice out of range, on the client's path or
the backend's, and every offset that a cursor function returns stays within
its input. -/
theorem parsers_never_panic (payload : Bytes) :
    (handshake.parse payload ≠ .Panic ∧
      login.parse_start payload ≠ .Panic ∧
      login.parse_encryption_request payload ≠ .Panic ∧
      login.parse_encryption_response payload ≠ .Panic ∧
      login.parse_plugin_request payload ≠ .Panic ∧
      (∀ component_text, login.parse_disconnect_reason component_text payload ≠ .Panic) ∧
      login.read_uuid payload ≠ .Panic ∧
      configuration.parse_client_information_checked payload ≠ .Panic ∧
      configuration.parse_plugin_message_checked payload ≠ .Panic ∧
      play.decode_movement_checked payload ≠ .Panic ∧
      play.parse_player_command_checked payload ≠ .Panic ∧
      play.parse_keep_alive_checked payload ≠ .Panic ∧
      play.parse_teleport_confirm_checked payload ≠ .Panic ∧
      ∀ zlib (c : CompressionState), c.read_wire zlib payload ≠ .Panic) ∧
    (∀ value used, consume_var_int_checked payload = .Ok (value, used) → used ≤ payload.length) ∧
    (∀ maxChars value used, consume_string_checked payload maxChars = .Ok (value, used) →
      used ≤ payload.length) ∧
    (∀ maxChars value used, login.read_string payload maxChars = .Ok (value, used) →
      used ≤ payload.length) ∧
    (∀ maxChars value used, handshake.read_string payload maxChars = .Ok (value, used) →
      used ≤ payload.length) ∧
    (∀ limit value used, login.consume_byte_array payload limit = .Ok (value, used) →
      used ≤ payload.length) := by
  refine ⟨⟨(handshake.parse_safe payload).ne_panic, (login.parse_start_safe payload).ne_panic,
    (login.parse_encryption_request_safe payload).ne_panic,
    (login.parse_encryption_response_safe payload).ne_panic,
    (login.parse_plugin_request_safe payload).ne_panic,
    fun component_text => (login.parse_disconnect_reason_safe component_text payload).ne_panic,
    (login.read_uuid_safe payload).ne_panic, ?_, ?_, ?_, ?_, ?_, ?_,
    fun zlib c => (c.read_wire_safe zlib payload).ne_panic⟩, ?_, ?_, ?_, ?_, ?_⟩
  · rw [configuration.parse_client_information_checked_eq]
    exact ofExcept_ne_panic _
  · rw [configuration.parse_plugin_message_checked_eq]
    exact ofExcept_ne_panic _
  · rw [play.decode_movement_checked_eq]
    exact ofExcept_ne_panic _
  · rw [play.parse_player_command_checked_eq]
    exact ofExcept_ne_panic _
  · rw [play.parse_keep_alive_checked_eq]
    exact ofExcept_ne_panic _
  · rw [play.parse_teleport_confirm_checked_eq]
    exact ofExcept_ne_panic _
  · intro value used h
    have hsafe := safe_consume_var_int (fun e => e) payload
    rw [h] at hsafe
    exact hsafe
  · intro maxChars value used h
    have hsafe := safe_consume_string (fun e => e) payload maxChars
    rw [h] at hsafe
    exact hsafe
  · intro maxChars value used h
    exact (login.read_string_safe payload maxChars).ok h
  · intro maxChars value used h
    exact (handshake.read_string_safe payload maxChars).ok h
  · intro limit value used h
    exact (login.consume_byte_array_safe payload limit).ok h

end regiongate
