import Mathlib
import BlobStore.Source

/-!
# Reading a source piece by piece

What a piece is does not depend on how the bytes come in: `Holds data e s` says that all of `data` is
still to come from `s` and then `e`. `During` are the points that reading a piece passes, `Gives` says
what has become of the source there, and `Comes` are the pieces it can come to, whatever room its
reads are given; `Comes.of_holds` and `Comes.of_short` tell them from what the source holds. `take`
is one way to read a piece (`comes_take`), and `during_of_take` covers every way in which it comes to
its end.
-/

namespace BlobStore.Source

/-- A read gives at least a byte while there are any. -/
def Flows (s : Source) : Prop := s.perRead ≠ some 0

instance (s : Source) : Decidable s.Flows := inferInstanceAs (Decidable (_ ≠ _))

/-- All of `data` is still to come, and then the given end. -/
structure Holds (data : ByteArray) (e : SourceEnd) (s : Source) : Prop where
  flows : s.Flows
  content : s.content = data
  ending : s.ending = e

theorem holds_ofBytes (data : ByteArray) : (ofBytes data).Holds data .finished :=
  ⟨nofun, content_ofBytes data, rfl⟩

theorem Flows.holds {s : Source} (h : s.Flows) : s.Holds s.content s.ending := ⟨h, rfl, rfl⟩

theorem foldl_append_chunks (chunks : List ByteArray) (data : ByteArray) :
    chunks.foldl (· ++ ·) data = data ++ chunks.foldl (· ++ ·) .empty := by
  induction chunks generalizing data with
  | nil => simp
  | cons chunk chunks ih =>
    rw [List.foldl_cons, List.foldl_cons, ih, ih (_ ++ chunk)]
    simp only [ByteArray.append_assoc, ByteArray.empty_append]

theorem content_cons (chunk : ByteArray) (chunks : List ByteArray) (p : Option Nat)
    (e : SourceEnd) :
    content ⟨chunk :: chunks, p, e⟩ = chunk ++ content ⟨chunks, p, e⟩ := by
  simp only [content, List.foldl_cons, ByteArray.empty_append]
  exact foldl_append_chunks chunks chunk

theorem left_cons (chunk : ByteArray) (chunks : List ByteArray) (p : Option Nat)
    (e : SourceEnd) : left ⟨chunk :: chunks, p, e⟩ = chunk.size + left ⟨chunks, p, e⟩ := rfl

theorem extract_append_rest (chunk : ByteArray) {n : Nat} (h : n ≤ chunk.size) :
    chunk.extract 0 n ++ chunk.extract n chunk.size = chunk := by
  rw [ByteArray.extract_append_extract, Nat.min_eq_left (Nat.zero_le n), Nat.max_eq_right h,
    ByteArray.extract_zero_size]

theorem extract_of_size_le (data : ByteArray) (i : Nat) {j : Nat} (h : data.size ≤ j) :
    data.extract i j = data.extract i data.size := by
  apply ByteArray.ext
  rw [ByteArray.data_extract, ByteArray.data_extract, Array.extract_eq_extract_right,
    ByteArray.size_data]
  omega

theorem extract_extract_rest (data : ByteArray) (m n : Nat) :
    (data.extract m data.size).extract n (data.extract m data.size).size =
      data.extract (m + n) data.size := by
  rw [ByteArray.extract_extract, ByteArray.size_extract]
  congr 1
  omega

theorem append_eq_append_of_size_le {a b c d : ByteArray} (h : a ++ b = c ++ d)
    (hle : c.size ≤ a.size) : ∃ a', a = c ++ a' ∧ d = a' ++ b := by
  have hc : c = a.extract 0 c.size := by
    have := congrArg (·.extract 0 c.size) h
    rw [ByteArray.extract_append_eq_left rfl, ByteArray.extract_append] at this
    simpa [Nat.sub_eq_zero_of_le hle] using this.symm
  have ha : a = c ++ a.extract c.size a.size := by
    rw [hc, ByteArray.size_extract, Nat.sub_zero, Nat.min_eq_left hle]
    exact (extract_append_rest a hle).symm
  refine ⟨a.extract c.size a.size, ha, ?_⟩
  rw [ha, ByteArray.append_assoc, ByteArray.append_right_inj] at h
  exact h.symm

/-! ## One read -/

theorem read_of_empty {s : Source} {e : SourceEnd} (h : s.Holds .empty e) (room : Nat) :
    s.read room = readEnd e := by
  obtain ⟨hflows, hcontent, rfl⟩ := h
  obtain ⟨chunks, p, e⟩ := s
  unfold read
  induction chunks with
  | nil => rfl
  | cons chunk chunks ih =>
    rw [content_cons, ByteArray.append_eq_empty_iff] at hcontent
    simp only [readFrom, hcontent.1, ByteArray.size_empty, if_true]
    exact ih hflows hcontent.2

theorem read_of_holds {s : Source} {data : ByteArray} {e : SourceEnd} (h : s.Holds data e)
    (hdata : 0 < data.size) (room : Nat) (hroom : 0 < room) :
    ∃ got more rest, s.read room = .bytes got rest ∧ data = got ++ more ∧ 0 < got.size ∧
      got.size ≤ room ∧ rest.Holds more e := by
  obtain ⟨hflows, rfl, rfl⟩ := h
  obtain ⟨chunks, p, e⟩ := s
  unfold read
  induction chunks with
  | nil => simp [content] at hdata
  | cons chunk chunks ih =>
    rw [content_cons] at hdata ⊢
    rw [readFrom]
    by_cases hzero : chunk.size = 0
    · rw [if_pos hzero]
      rw [ByteArray.size_eq_zero_iff.mp hzero, ByteArray.empty_append] at hdata ⊢
      exact ih hflows hdata
    rw [if_neg hzero]
    have hmax : 0 < p.getD room := by
      cases p with
      | none => exact hroom
      | some m => exact Nat.pos_of_ne_zero fun hm => hflows (congrArg some hm)
    generalize hn : min (min room (p.getD room)) chunk.size = n
    have hpos : n ≠ 0 := by omega
    have hle : n ≤ chunk.size := by omega
    have hnroom : n ≤ room := by omega
    rw [if_neg hpos]
    split
    · next hlt =>
      refine ⟨_, _, _, rfl, ?_, ?_, ?_, ⟨hflows, rfl, rfl⟩⟩
      · rw [content_cons, ← ByteArray.append_assoc, extract_append_rest chunk hle]
      · rw [ByteArray.size_extract]; omega
      · rw [ByteArray.size_extract]; omega
    · next hlt =>
      exact ⟨chunk, _, _, rfl, rfl, by omega, by omega, ⟨hflows, rfl, rfl⟩⟩

/-! ## What reading leaves -/

/-- The source has given `data`, and `rest` is what has become of it. -/
structure Gives (s : Source) (data : ByteArray) (rest : Source) : Prop where
  content : s.content = data ++ rest.content
  perRead : rest.perRead = s.perRead
  ending : rest.ending = s.ending

namespace Gives

variable {s t u : Source} {a b : ByteArray}

theorem refl (s : Source) : s.Gives .empty s := ⟨by simp, rfl, rfl⟩

theorem trans (h : s.Gives a t) (h' : t.Gives b u) : s.Gives (a ++ b) u where
  content := by rw [h.content, h'.content, ByteArray.append_assoc]
  perRead := h'.perRead.trans h.perRead
  ending := h'.ending.trans h.ending

theorem flows (h : s.Gives a t) (hs : s.Flows) : t.Flows := by
  unfold Flows
  rwa [h.perRead]

theorem exists_rest {c : ByteArray} {e : SourceEnd} (h : s.Gives c t) (hs : s.Holds (a ++ b) e)
    (hle : c.size ≤ a.size) : ∃ a', a = c ++ a' ∧ t.Holds (a' ++ b) e := by
  have hcontent := hs.content.symm.trans h.content
  obtain ⟨a', ha, hrest⟩ := append_eq_append_of_size_le hcontent hle
  exact ⟨a', ha, h.flows hs.flows, hrest, h.ending.trans hs.ending⟩

theorem holds_content {e : SourceEnd} (h : s.Gives a t) (hs : s.Holds b e) :
    b = a ++ t.content ∧ t.Holds t.content e :=
  ⟨hs.content.symm.trans h.content, h.flows hs.flows, rfl, h.ending.trans hs.ending⟩

theorem read_eq_bytes {e : SourceEnd} (h : s.Gives a t) (hs : s.Holds b e) (hlt : a.size < b.size)
    {room : Nat} (hpos : 0 < room) : ∃ more rest, t.read room = .bytes more rest := by
  obtain ⟨rfl, ht⟩ := h.holds_content hs
  rw [ByteArray.size_append] at hlt
  obtain ⟨more, _, rest, hread, -⟩ := read_of_holds ht (by omega) room hpos
  exact ⟨more, rest, hread⟩

end Gives

theorem gives_of_read {s rest : Source} {room : Nat} {data : ByteArray}
    (h : s.read room = .bytes data rest) :
    s.Gives data rest ∧ 0 < data.size ∧ data.size ≤ room := by
  obtain ⟨chunks, p, e⟩ := s
  unfold read at h
  induction chunks with
  | nil => cases e <;> simp [readFrom, readEnd] at h
  | cons chunk chunks ih =>
    rw [readFrom] at h
    dsimp only at ih h
    split at h
    · next hzero =>
      obtain ⟨⟨hcontent, hperRead, hending⟩, hle⟩ := ih h
      refine ⟨⟨?_, hperRead, hending⟩, hle⟩
      rw [content_cons, ByteArray.size_eq_zero_iff.mp hzero, ByteArray.empty_append, hcontent]
    · split at h
      · cases h
      · split at h
        · obtain ⟨rfl, rfl⟩ := Read.bytes.inj h
          refine ⟨⟨?_, rfl, rfl⟩, ?_⟩
          · rw [content_cons, content_cons, ← ByteArray.append_assoc,
              extract_append_rest chunk (Nat.min_le_right _ _)]
          · rw [ByteArray.size_extract]; omega
        · obtain ⟨rfl, rfl⟩ := Read.bytes.inj h
          exact ⟨⟨content_cons .., rfl, rfl⟩, by omega, by omega⟩

theorem ending_of_notReady {s : Source} {room : Nat} (h : s.read room = .notReady) :
    s.ending = .stalled := by
  obtain ⟨chunks, p, e⟩ := s
  unfold read at h
  induction chunks with
  | nil => cases e <;> simp_all [readFrom, readEnd]
  | cons chunk chunks ih =>
    rw [readFrom] at h
    dsimp only at ih h
    split at h
    · exact ih h
    · split at h
      · cases h
      · split at h <;> cases h

/-- Where reading a piece of `size` bytes can stand: the bytes `got` are there, and `rest` is what
has become of the source. A read may have less room than the piece still has. -/
inductive During (s : Source) (size : Nat) : ByteArray → Source → Prop
  | start : During s size .empty s
  | read {got data : ByteArray} {rest rest' : Source} {room : Nat} (before : During s size got rest)
    (fits : got.size + room ≤ size) (h : rest.read room = .bytes data rest') :
    During s size (got ++ data) rest'

namespace During

variable {s rest : Source} {size : Nat} {got : ByteArray}

theorem gives (h : s.During size got rest) : s.Gives got rest := by
  induction h with
  | start => exact .refl s
  | read _ _ hread ih => exact ih.trans (gives_of_read hread).1

theorem size_le (h : s.During size got rest) : got.size ≤ size := by
  induction h with
  | start => exact Nat.zero_le size
  | read _ fits hread _ =>
    have := (gives_of_read hread).2.2
    rw [ByteArray.size_append]
    omega

end During

/-! ## A piece -/

/-- What a piece comes to that cannot be filled: all the bytes there are if the source ends. -/
def pieceAtEnd (data : ByteArray) (rest : Source) : SourceEnd → Piece
  | .finished => .taken data rest
  | .failing text => .failed text rest
  | .stalled => .stalled rest

/-- What a piece comes to by a read that gives no bytes, if `got` are there. -/
def pieceBy? (got : ByteArray) (rest : Source) : Read → Option Piece
  | .bytes .. => none
  | .finished => some (.taken got rest)
  | .failed text => some (.failed text rest)
  | .notReady => some (.stalled rest)

theorem pieceBy?_readEnd (got : ByteArray) (rest : Source) (e : SourceEnd) :
    pieceBy? got rest (readEnd e) = some (pieceAtEnd got rest e) := by
  cases e <;> rfl

/-- What a piece of `size` bytes can come to, whatever room its reads are given. Once it is full the
source is not asked again. -/
inductive Comes (s : Source) (size : Nat) : Piece → Prop
  | full {got : ByteArray} {rest : Source} (way : s.During size got rest) (hfull : got.size = size) :
    Comes s size (.taken got rest)
  | ended {got : ByteArray} {rest : Source} {room : Nat} {p : Piece} (way : s.During size got rest)
    (hpos : 0 < room) (fits : got.size + room ≤ size)
    (hread : pieceBy? got rest (rest.read room) = some p) : Comes s size p

theorem comes_take (s : Source) (size : Nat) : s.Comes size (s.take size) := by
  -- from any point on the way; each read fills some of the room, so that there are reads enough
  have general : ∀ (reads room : Nat) (got : ByteArray) (t : Source), s.During size got t →
      got.size + room = size → room ≤ reads → s.Comes size (takeMore reads room got t) := by
    intro reads
    induction reads with
    | zero => exact fun room got t way hroom hreads => .full way (by omega)
    | succ reads ih =>
      intro room got t way hroom hreads
      rw [takeMore]
      split_ifs with hfull
      · exact .full way (by omega)
      · have hpos : 0 < room := Nat.pos_of_ne_zero hfull
        have hended : ∀ {p : Piece}, pieceBy? got t (t.read room) = some p → s.Comes size p :=
          fun h => .ended way hpos hroom.le h
        cases hread : t.read room with
        | bytes data rest =>
          obtain ⟨-, hdata, hle⟩ := gives_of_read hread
          refine ih (room - data.size) (got ++ data) rest (way.read hroom.le hread) ?_ (by omega)
          rw [ByteArray.size_append]
          omega
        | finished => exact hended (by rw [hread]; rfl)
        | failed text => exact hended (by rw [hread]; rfl)
        | notReady => exact hended (by rw [hread]; rfl)
  exact general size size .empty s .start (by simp) le_rfl

namespace Comes

variable {s : Source} {a b : ByteArray} {e : SourceEnd} {p : Piece} {size : Nat}

/-- **A piece is the next bytes**, and the rest is still to come behind it. -/
theorem of_holds (h : s.Comes a.size p) (hs : s.Holds (a ++ b) e) :
    ∃ rest, p = .taken a rest ∧ rest.Holds b e := by
  cases h with
  | @full got rest way hfull =>
    obtain ⟨a', rfl, hrest⟩ := way.gives.exists_rest hs way.size_le
    obtain rfl : a' = .empty := by
      rw [ByteArray.size_append] at hfull
      exact ByteArray.size_eq_zero_iff.mp (by omega)
    exact ⟨rest, by simp, by simpa using hrest⟩
  | @ended got rest room p way hpos fits hread =>
    have hlt : got.size < (a ++ b).size := by rw [ByteArray.size_append]; omega
    obtain ⟨more, rest', hbytes⟩ := way.gives.read_eq_bytes hs hlt hpos
    rw [hbytes] at hread
    cases hread

/-- **A piece that cannot be filled** is what the end of the source makes of it. -/
theorem of_short (h : s.Comes size p) (hs : s.Holds a e) (hsize : a.size < size) :
    ∃ rest, p = pieceAtEnd a rest e ∧ rest.Holds .empty e := by
  cases h with
  | @full got rest way hfull =>
    obtain ⟨rfl, -⟩ := way.gives.holds_content hs
    rw [ByteArray.size_append] at hsize
    omega
  | @ended got rest room p way hpos fits hread =>
    -- the read gives no bytes, so that all of them are there
    have hall : ¬ got.size < a.size := by
      intro hlt
      obtain ⟨more, rest', hbytes⟩ := way.gives.read_eq_bytes hs hlt hpos
      rw [hbytes] at hread
      cases hread
    obtain ⟨rfl, hrest⟩ := way.gives.holds_content hs
    have hempty : rest.content = .empty := by
      rw [ByteArray.size_append] at hall
      exact ByteArray.size_eq_zero_iff.mp (by omega)
    rw [hempty] at hrest ⊢
    rw [read_of_empty hrest, pieceBy?_readEnd] at hread
    refine ⟨rest, ?_, hrest⟩
    rw [ByteArray.append_empty]
    exact (Option.some.inj hread).symm

theorem of_le {data : ByteArray} (h : s.Comes size p) (hs : s.Holds data e)
    (hle : size ≤ data.size) :
    ∃ rest, p = .taken (data.extract 0 size) rest ∧
      rest.Holds (data.extract size data.size) e := by
  have hsize : (data.extract 0 size).size = size := by rw [ByteArray.size_extract]; omega
  refine of_holds (by rwa [hsize]) ?_
  rwa [extract_append_rest data hle]

theorem of_taken_short {data got : ByteArray} {rest : Source} (h : s.Comes size (.taken got rest))
    (hs : s.Holds data e) (hgot : got.size < size) :
    e = .finished ∧ got = data ∧ rest.content = .empty := by
  rcases Nat.lt_or_ge data.size size with hlt | hle
  · obtain ⟨rest', hp, hrest⟩ := h.of_short hs hlt
    cases e with
    | finished =>
      obtain ⟨rfl, rfl⟩ := Piece.taken.inj hp
      exact ⟨rfl, rfl, hrest.content⟩
    | failing text => cases hp
    | stalled => cases hp
  · obtain ⟨rest', hp, -⟩ := h.of_le hs hle
    obtain ⟨rfl, -⟩ := Piece.taken.inj hp
    rw [ByteArray.size_extract] at hgot
    omega

end Comes

theorem take_of_holds {s : Source} {a b : ByteArray} {e : SourceEnd} (h : s.Holds (a ++ b) e) :
    ∃ rest, s.take a.size = .taken a rest ∧ rest.Holds b e :=
  (s.comes_take a.size).of_holds h

theorem take_of_short {s : Source} {a : ByteArray} {e : SourceEnd} (h : s.Holds a e) (size : Nat)
    (hsize : a.size < size) :
    ∃ rest, s.take size = pieceAtEnd a rest e ∧ rest.Holds .empty e :=
  (s.comes_take size).of_short h hsize

/-- **A piece comes to its end at one of the points on the way**, and if it has to wait there the
source is one that stalls. -/
theorem during_of_take (s : Source) (size : Nat) :
    match s.take size with
    | .taken data rest => s.During size data rest
    | .failed _ rest => ∃ got, s.During size got rest
    | .stalled rest => (∃ got, s.During size got rest) ∧ rest.ending = .stalled := by
  have h := s.comes_take size
  generalize s.take size = p at h
  cases h with
  | full way hfull => exact way
  | @ended got rest room _ way hpos fits hread =>
    cases hbytes : rest.read room with
    | bytes data rest' => rw [hbytes] at hread; cases hread
    | finished => rw [hbytes] at hread; cases hread; exact way
    | failed text => rw [hbytes] at hread; cases hread; exact ⟨got, way⟩
    | notReady =>
      rw [hbytes] at hread
      cases hread
      exact ⟨⟨got, way⟩, ending_of_notReady hbytes⟩

theorem ending_of_take (s : Source) (size : Nat) :
    match s.take size with
    | .taken _ rest | .failed _ rest => rest.ending = s.ending
    | .stalled rest => rest.ending = s.ending ∧ s.ending = .stalled := by
  have h := s.during_of_take size
  cases htake : s.take size with
  | taken data rest =>
    rw [htake] at h
    exact h.gives.ending
  | failed text rest =>
    rw [htake] at h
    obtain ⟨got, h⟩ := h
    exact h.gives.ending
  | stalled rest =>
    rw [htake] at h
    obtain ⟨⟨got, h⟩, hstalled⟩ := h
    exact ⟨h.gives.ending, h.gives.ending.symm.trans hstalled⟩

/-! ## Counting -/

theorem size_content (s : Source) : s.content.size = s.left := by
  obtain ⟨chunks, p, e⟩ := s
  induction chunks with
  | nil => rfl
  | cons chunk chunks ih => rw [content_cons, ByteArray.size_append, ih, left_cons]

theorem left_of_taken {s rest : Source} {size : Nat} {data : ByteArray}
    (h : s.take size = .taken data rest) : data.size + rest.left = s.left := by
  have hduring := s.during_of_take size
  rw [h] at hduring
  rw [← size_content s, hduring.gives.content, ByteArray.size_append, size_content]

theorem content_of_taken_short {s rest : Source} {size : Nat} {data : ByteArray} (hs : s.Flows)
    (h : s.take size = .taken data rest) (hsize : data.size < size) : rest.content = .empty := by
  have hcomes := s.comes_take size
  rw [h] at hcomes
  exact (hcomes.of_taken_short hs.holds hsize).2.2

end BlobStore.Source
