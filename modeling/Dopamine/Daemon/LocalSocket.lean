import Dopamine.Framing.Lines
import Dopamine.Trace.Runs
import Mathlib.Data.List.DropRight

/-!
# The socket between client and daemon

Client and daemon send each other JSON objects over a local socket, each on a line of its own:
`write` and `readData` of `client/mozilla/localsocketcontroller.cpp` and
`client/daemon/daemonlocalserverconnection.cpp`. The bytes arrive in any pieces. While a command is
handled `readData` can be entered again, so that the steps of a run are the iterations of its loop,
whichever call makes them.
-/

namespace Dopamine.LocalSocket

open List Framing Trace

def newline : UInt8 := 10

/-- `QByteArray::trimmed`: without the blanks of ASCII at both ends. -/
def trimmed (bytes : List UInt8) : List UInt8 :=
  let isBlank (b : UInt8) : Bool := b == 32 || (9 ≤ b && b ≤ 13)
  (bytes.dropWhile isBlank).rdropWhile isBlank

/-- One direction of a connection: the objects written so far, the bytes on their way, and at the
other end what `m_socket` has received, `m_buffer`, and the calls of `parseCommand` so far. -/
structure Wire (J : Type) where
  sent : List J := []
  transit : List UInt8 := []
  socket : List UInt8 := []
  buffer : List UInt8 := []
  commands : List (List UInt8) := []

inductive Event (J : Type) where
  | write (json : J)
  | arrive (bytes : ℕ)
  | readAll
  | takeLine

variable {J : Type} (toJson : J → List UInt8) (fromJson : List UInt8 → Option J) (w : Wire J)

namespace Wire

/-- `m_buffer.append(m_socket->readAll())`. -/
def readAll : Wire J := { w with socket := [], buffer := w.buffer ++ w.socket }

/-- Cut off the first line of the buffer and handle it, unless it is blank. -/
def takeLine : Wire J :=
  let pos := w.buffer.idxOf newline
  let command := trimmed (w.buffer.take pos)
  { w with
    buffer := w.buffer.drop (pos + 1)
    commands := if command = [] then w.commands else w.commands ++ [command] }

/-- The loop of `readData`. Only the one of the daemon looks for more input in the socket. -/
def readLoop (more : Bool) (w : Wire J) : Wire J :=
  if newline ∈ w.buffer then readLoop more w.takeLine
  else if more ∧ w.socket ≠ [] then readLoop more w.readAll
  else w
termination_by 2 * w.socket.length + w.buffer.length
decreasing_by
  · have := length_pos_of_mem ‹_›
    simp only [takeLine, length_drop]
    omega
  · have := length_pos_iff.mpr (And.right ‹_›)
    simp only [readAll, length_append, length_nil]
    omega

/-- `DaemonLocalServerConnection::readData`. -/
def daemonReadData : Wire J := w.readLoop true

/-- `LocalSocketController::readData`. -/
def clientReadData : Wire J := w.readAll.readLoop false

def step (w : Wire J) : Event J → Wire J
  | .write json =>
    { w with sent := w.sent ++ [json], transit := w.transit ++ (toJson json ++ [newline]) }
  | .arrive n => { w with transit := w.transit.drop n, socket := w.socket ++ w.transit.take n }
  | .readAll => w.readAll
  | .takeLine => if newline ∈ w.buffer then w.takeLine else w

end Wire

/-- What is written for an object can be read: the text stands in braces, without a newline, and
it is parsed to the object. -/
structure Readable (json : J) : Prop where
  braces : ∃ body, toJson json = 123 :: (body ++ [125])
  line : newline ∉ toJson json
  parsed : fromJson (toJson json) = some json

/-- The objects that have not been handled are still to be cut off, in their order. -/
def Carries : Prop :=
  ∃ rest, w.commands.filterMap fromJson ++ rest = w.sent ∧
    w.buffer ++ (w.socket ++ w.transit) = frame newline (rest.map toJson) ∧
    ∀ json ∈ rest, Readable toJson fromJson json

variable {toJson fromJson w} {more : Bool}

section Carries

variable (h : Carries toJson fromJson w)
include h

theorem Carries.readAll : Carries toJson fromJson w.readAll := by
  obtain ⟨rest, hsent, hframe, hrest⟩ := h
  exact ⟨rest, hsent, by simpa [Wire.readAll] using hframe, hrest⟩

theorem Carries.takeLine (hline : newline ∈ w.buffer) : Carries toJson fromJson w.takeLine := by
  obtain ⟨rest, hsent, hframe, hrest⟩ := h
  -- the line is the text of the first object that is left
  obtain ⟨texts, htexts, htail⟩ := exists_cons_of_mem
    (forall_mem_map.mpr fun json hj => (hrest json hj).line) hframe hline
  obtain ⟨json, rest, rfl, hjson, rfl⟩ := map_eq_cons_iff.mp htexts
  obtain ⟨⟨⟨body, hbody⟩, -, hparsed⟩, hrest⟩ := forall_mem_cons.mp hrest
  have htrim : trimmed (toJson json) = toJson json := by
    rw [hbody, trimmed, dropWhile_cons_of_neg (by decide), ← cons_append,
      rdropWhile_concat_neg _ _ _ (by decide)]
  refine ⟨rest, ?_, htail, hrest⟩
  simp [Wire.takeLine, ← hjson, htrim, hparsed, ← hsent, show toJson json ≠ [] by simp [hbody]]

theorem Carries.step (e : Event J) (he : ∀ json, e = .write json → Readable toJson fromJson json) :
    Carries toJson fromJson (w.step toJson e) := by
  obtain ⟨rest, hsent, hframe, hrest⟩ := id h
  cases e with
  | write json =>
    refine ⟨rest ++ [json], by simp [Wire.step, ← hsent], ?_, ?_⟩
    · simp only [Wire.step, ← append_assoc] at hframe ⊢
      simp [hframe, frame]
    · exact forall_mem_append.mpr ⟨hrest, forall_mem_singleton.mpr (he json rfl)⟩
  | arrive n => exact ⟨rest, hsent, by simpa [Wire.step] using hframe, hrest⟩
  | readAll => exact h.readAll
  | takeLine =>
    rw [Wire.step]
    split
    · exact h.takeLine ‹_›
    · exact h

/-- Once all bytes have arrived, a whole `readData` handles all objects. -/
theorem Carries.handled_eq (hmore : more = true ∨ w.socket = []) (htransit : w.transit = []) :
    (w.readLoop more).commands.filterMap fromJson = w.sent := by
  fun_induction Wire.readLoop more w with
  | case1 w hline ih => exact ih (h.takeLine hline) hmore htransit
  | case2 w _ _ ih => exact ih h.readAll (.inr rfl) htransit
  | case3 w hline hdone =>
    obtain ⟨rest, hsent, hframe, -⟩ := h
    have hsocket : w.socket = [] := by grind
    have hnil : rest.map toJson = [] :=
      eq_nil_of_notMem (by simpa [hsocket, htransit] using hframe) hline
    simpa [map_eq_nil_iff.mp hnil] using hsent

end Carries

variable (toJson fromJson) in
/-- In every run the handled objects are the first of those that were written, in their order; and
once all bytes have arrived, `readData` of either end handles the rest. -/
theorem handled_in_order (es : List (Event J))
    (hes : ∀ json, .write json ∈ es → Readable toJson fromJson json) :
    let w := run (Wire.step toJson) {} es
    w.commands.filterMap fromJson <+: w.sent ∧
      (w.transit = [] → w.daemonReadData.commands.filterMap fromJson = w.sent ∧
        w.clientReadData.commands.filterMap fromJson = w.sent) := by
  intro w
  have h : Carries toJson fromJson w :=
    run_invariant_of_mem (fun w e he hw => Carries.step hw e he) ⟨[], rfl, rfl, forall_mem_nil _⟩
      fun e he json hjson => hes json (hjson ▸ he)
  refine ⟨?_, fun htransit =>
    ⟨h.handled_eq (.inl rfl) htransit, h.readAll.handled_eq (.inr rfl) htransit⟩⟩
  obtain ⟨rest, hsent, -⟩ := h
  exact ⟨rest, hsent⟩

/-- Two objects, of which the second one is cut in the middle on its way. -/
theorem handled_in_order_pieces :
    let toJson (b : Bool) := [123, if b then 49 else 48, 125]
    let w := run (Wire.step toJson) {} [.write true, .write false, .arrive 5, .readAll, .arrive 3]
    w.daemonReadData.commands.filterMap (fun text => text[1]?.map (· == 49)) = [true, false] :=
  (handled_in_order _ _ _ fun b _ => ⟨⟨[if b then 49 else 48], rfl⟩, by cases b <;> decide,
    by cases b <;> rfl⟩).2 rfl |>.1

end Dopamine.LocalSocket
