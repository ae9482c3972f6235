import Lodging.Log.Frame
import Lodging.Proofs.WrittenForms

/-!
# Reading back what was written

Every reader of the log undoes the writer of the same thing: it takes exactly the bytes that were
written, whatever follows them, and gives the value they were written for. Texts have to fit the
width of their length, which holds in every payload that fits a frame.
-/

namespace Lodging.Log

@[simp] theorem length_littleEndian (width n : Nat) : (littleEndian width n).length = width := by
  induction width generalizing n with
  | zero => rfl
  | succ width ih => rw [littleEndian, List.length_cons, ih]

theorem ofLittleEndian_littleEndian (width n : Nat) :
    ofLittleEndian (littleEndian width n) = n % 256 ^ width := by
  induction width generalizing n with
  | zero => rw [Nat.pow_zero, Nat.mod_one]; rfl
  | succ width ih =>
      have hbyte : (n % 256).toUInt8.toNat = n % 256 := by simp
      rw [littleEndian, ofLittleEndian, ih, hbyte, Nat.pow_succ, Nat.mul_comm _ 256, Nat.mod_mul]

@[simp] theorem length_textBytes (s : String) : (textBytes s).length = 8 + (utf8 s).length := by
  rw [textBytes, List.length_append, length_littleEndian]

theorem fromUTF8?_utf8 (s : String) : String.fromUTF8? ⟨(utf8 s).toArray⟩ = some s := by
  have hbytes : (⟨(utf8 s).toArray⟩ : ByteArray) = s.toUTF8 := by simp [utf8]
  rw [hbytes]
  exact dif_pos s.isValidUTF8

namespace Reader

/-- The reader takes exactly `bytes` from the front of its input and gives `a`. -/
def Reads {α : Type} (read : Reader α) (bytes : Bytes) (a : α) : Prop :=
  ∀ rest, read (bytes ++ rest) = some (a, rest)

namespace Reads

variable {α β : Type} {read : Reader α} {front back : Bytes} {a : α}

theorem bind {next : α → Reader β} {b : β} (hread : Reads read front a)
    (hnext : Reads (next a) back b) : Reads (read >>= next) (front ++ back) b := by
  intro rest
  change (read (front ++ back ++ rest)).bind (fun (x, bytes) => next x bytes) = some (b, rest)
  rw [List.append_assoc, hread, Option.bind_some]
  exact hnext rest

theorem map {f : α → β} (hread : Reads read front a) :
    Reads (do return f (← read)) front (f a) := by
  intro rest
  change (read (front ++ rest)).bind (fun (x, bytes) => some (f x, bytes)) = some (f a, rest)
  rw [hread, Option.bind_some]

/-- What is read may still be turned into something else without a look at the input. -/
theorem bind_lift {next : α → Reader β} {b : β} (hread : Reads read front a)
    (hnext : ∀ rest, next a rest = some (b, rest)) : Reads (read >>= next) front b := by
  have hlifted : Reads (next a) [] b := fun rest => hnext rest
  have h := hread.bind hlifted
  rwa [List.append_nil] at h

/-! ## Parts of an event -/

theorem take (bytes : Bytes) : Reads (Reader.take bytes.length) bytes bytes := by
  intro rest
  simp [Reader.take]

theorem number {width n : Nat} (hn : n < 256 ^ width) :
    Reads (Reader.number width) (littleEndian width n) n := by
  have htake := take (littleEndian width n)
  rw [length_littleEndian] at htake
  have h := htake.map (f := ofLittleEndian)
  rwa [ofLittleEndian_littleEndian, Nat.mod_eq_of_lt hn] at h

theorem byte (n : UInt8) : Reads Reader.byte (littleEndian 1 n.toNat) n := by
  have hvalue : n.toNat < 256 ^ 1 := n.toNat_lt
  have h := (number hvalue).map (f := Nat.toUInt8)
  rwa [Nat.toUInt8_eq, UInt8.ofNat_toNat] at h

theorem text {s : String} (hs : (textBytes s).length < payloadBound) :
    Reads Reader.text (textBytes s) s := by
  have hlength : (utf8 s).length < 256 ^ 8 := by
    rw [length_textBytes] at hs
    simp only [payloadBound] at hs
    omega
  refine bind (number hlength) (bind_lift (take _) ?_)
  intro rest
  rw [fromUTF8?_utf8]
  rfl

theorem flag (b : Bool) : Reads Reader.flag (flagBytes b) b := by
  cases b with
  | false =>
      have hvalue : 0 < 256 ^ 1 := by decide
      exact bind_lift (number hvalue) fun _ => rfl
  | true =>
      have hvalue : 1 < 256 ^ 1 := by decide
      exact bind_lift (number hvalue) fun _ => rfl

theorem optional {bytes : α → Bytes} {a? : Option α}
    (hread : ∀ a, a? = some a → Reads read (bytes a) a) :
    Reads (Reader.optional read) (optionBytes bytes a?) a? := by
  cases a? with
  | none => exact bind_lift (flag false) fun _ => rfl
  | some a => exact bind (flag true) (hread a rfl).map

theorem optionalText {s? : Option String} (hs : (optionBytes textBytes s?).length < payloadBound) :
    Reads (Reader.optional Reader.text) (optionBytes textBytes s?) s? := by
  apply optional
  rintro s rfl
  exact text (Nat.lt_of_succ_lt hs)

theorem recordId {id : RecordId} (hid : (idBytes id).length < payloadBound) :
    Reads Reader.recordId (idBytes id) id := by
  refine bind_lift (text hid) fun rest => ?_
  rw [RecordId.parse_hex]
  rfl

theorem day {d : Day} (hd : (dayBytes d).length < payloadBound) :
    Reads Reader.day (dayBytes d) d := by
  refine bind_lift (text hd) fun rest => ?_
  rw [Day.ofText?_text]
  rfl

theorem amount (a : Amount) : Reads Reader.amount (amountBytes a) a := by
  have hvalue : a.bits.toNat < 256 ^ 8 := a.bits.toNat_lt
  have h := (number hvalue).map (f := fun n => Amount.mk n.toUInt64)
  rwa [Nat.toUInt64_eq, UInt64.ofNat_toNat] at h

theorem roomKind (k : RoomKind) : Reads Reader.roomKind (littleEndian 4 k.index) k := by
  have hk : k.index < 256 ^ 4 := by cases k <;> decide
  refine bind_lift (number hk) fun rest => ?_
  cases k <;> rfl

/-! ## Documents -/

theorem user {u : User} (hu : (userBytes u).length < payloadBound) :
    Reads Reader.user (userBytes u) u := by
  simp only [userBytes, List.length_append] at hu
  simp only [Reader.user, userBytes, List.append_assoc]
  refine bind (recordId (by omega)) (bind (text (by omega)) (bind (text (by omega))
    (bind (text (by omega)) ?_)))
  exact (flag u.isAdmin).map

theorem room {r : Room} (hr : (roomBytes r).length < payloadBound) :
    Reads Reader.room (roomBytes r) r := by
  simp only [roomBytes, List.length_append] at hr
  simp only [Reader.room, roomBytes, List.append_assoc]
  refine bind (recordId (by omega)) (bind (roomKind _) (bind (amount _) (bind (amount _) ?_)))
  exact (recordId (by omega)).map

theorem booking {b : Booking} (hb : (bookingBytes b).length < payloadBound) :
    Reads Reader.booking (bookingBytes b) b := by
  have hguests : b.guestCount.toNat.toUInt32 = b.guestCount := by
    rw [Nat.toUInt32_eq, UInt32.ofNat_toNat]
  simp only [bookingBytes, List.length_append] at hb
  simp only [Reader.booking, bookingBytes, List.append_assoc]
  refine bind (recordId (by omega)) (bind (recordId (by omega)) (bind (recordId (by omega))
    (bind (number b.guestCount.toNat_lt) (bind (day (by omega)) (bind (day (by omega)) ?_)))))
  simp only [hguests]
  exact (flag b.canceled).map

/-! ## Events -/

theorem event {e : Event} (he : e.payload.length < payloadBound) :
    Reads Reader.event e.payload e := by
  have hkind : ∀ kind < 8, Reads (Reader.number 4) (littleEndian 4 kind) kind :=
    fun kind h => number (Nat.lt_trans h (by decide))
  -- No part of the payload is longer than the whole.
  cases e with
  | hotelCreated id name location rating =>
      simp only [Event.payload, List.length_append] at he
      simp only [Reader.event, Event.payload, List.append_assoc]
      refine bind (hkind 0 (by decide)) (bind (recordId (by omega)) (bind (text (by omega))
        (bind (text (by omega)) ?_)))
      exact (byte rating).map
  | hotelUpdated id update =>
      simp only [Event.payload, List.length_append] at he
      simp only [Reader.event, Event.payload, List.append_assoc]
      refine bind (hkind 1 (by decide)) (bind (recordId (by omega))
        (bind (optionalText (by omega)) ?_))
      exact (optionalText (by omega)).map
  | userCreated u =>
      simp only [Event.payload, List.length_append] at he
      exact bind (hkind 2 (by decide)) (user (by omega)).map
  | userUpdated id update =>
      simp only [Event.payload, List.length_append] at he
      simp only [Reader.event, Event.payload, List.append_assoc]
      refine bind (hkind 3 (by decide)) (bind (recordId (by omega))
        (bind (optionalText (by omega)) ?_))
      exact (optionalText (by omega)).map
  | userDeleted id =>
      simp only [Event.payload, List.length_append] at he
      exact bind (hkind 4 (by decide)) (recordId (by omega)).map
  | roomCreated r =>
      simp only [Event.payload, List.length_append] at he
      exact bind (hkind 5 (by decide)) (room (by omega)).map
  | bookingCreated b =>
      simp only [Event.payload, List.length_append] at he
      exact bind (hkind 6 (by decide)) (booking (by omega)).map
  | bookingCanceled id room =>
      simp only [Event.payload, List.length_append] at he
      simp only [Reader.event, Event.payload, List.append_assoc]
      exact bind (hkind 7 (by decide)) (bind (recordId (by omega)) (recordId (by omega)).map)

end Reads

end Reader

end Lodging.Log
