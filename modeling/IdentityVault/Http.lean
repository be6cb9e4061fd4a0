import Mathlib.Data.List.Basic

/-! # Handler responses

The part of `net/http` that the keypair handlers use, and the JSON envelope they answer with.

* **Writer.** A `ResponseWriter` keeps the header map the handler edits, the status line and the
  headers fixed by the first `WriteHeader` (or by the first body write, with `200`), and the
  bodies written.  As in `net/http`, a header set after `WriteHeader` is not sent and a second
  `WriteHeader` is ignored.
* **Envelopes.** A writer is typed by the JSON body it carries.
  `formatBooleanResponse success code subcode message w` writes one `BooleanResponse`, the
  answer of most keypair handlers; the list handlers write their own envelopes.
* **Requests.** The outcomes of the JSON decoder on a request body (`Body`), the user the JWT
  check yields, and `strings.TrimSpace` as the handlers apply it to an authority-id.
-/

namespace IdentityVault

/-! ### Headers and the writer -/

/-- A header map, one value per name. -/
abbrev Header := List (String × String)

/-- `Header().Set(k, v)`: replace the value of `k`, or add it. -/
def Header.set (h : Header) (k v : String) : Header := (k, v) :: h.filter (fun p => p.1 != k)

/-- The JSON body of a boolean answer (`BooleanResponse`). -/
structure BooleanResponse where
  success : Bool
  errorCode : String
  errorSubcode : String
  message : String
deriving DecidableEq, Repr

/-- The state of an `http.ResponseWriter` while a handler runs, writing bodies of type `β`. -/
structure ResponseWriter (β : Type) where
  header : Header
  status : Option ℕ
  sentHeader : Header
  body : List β
deriving DecidableEq, Repr

namespace ResponseWriter

variable {β : Type}

/-- A fresh writer: nothing set, nothing sent. -/
def empty : ResponseWriter β := ⟨[], none, [], []⟩

/-- `w.Header().Set(k, v)`. -/
def setHeader (w : ResponseWriter β) (k v : String) : ResponseWriter β :=
  { w with header := w.header.set k v }

/-- `w.WriteHeader(code)`: sends the status line with the headers set so far; a later call is
superfluous and changes nothing. -/
def writeHeader (w : ResponseWriter β) (code : ℕ) : ResponseWriter β :=
  match w.status with
  | none => { w with status := some code, sentHeader := w.header }
  | some _ => w

/-- `w.Write`: the first write sends the status line `200` if none was sent. -/
def write (w : ResponseWriter β) (b : β) : ResponseWriter β :=
  { w.writeHeader 200 with body := w.body ++ [b] }

@[simp] theorem empty_body : (empty : ResponseWriter β).body = [] := rfl

@[simp] theorem setHeader_status (w : ResponseWriter β) (k v : String) :
    (w.setHeader k v).status = w.status := rfl

@[simp] theorem setHeader_sentHeader (w : ResponseWriter β) (k v : String) :
    (w.setHeader k v).sentHeader = w.sentHeader := rfl

@[simp] theorem setHeader_body (w : ResponseWriter β) (k v : String) :
    (w.setHeader k v).body = w.body := rfl

@[simp] theorem writeHeader_body (w : ResponseWriter β) (code : ℕ) :
    (w.writeHeader code).body = w.body := by
  unfold writeHeader; split <;> rfl

theorem writeHeader_status (w : ResponseWriter β) (code : ℕ) :
    (w.writeHeader code).status = some (w.status.getD code) := by
  unfold writeHeader; split <;> simp_all

@[simp] theorem writeHeader_empty_status (code : ℕ) :
    ((empty : ResponseWriter β).writeHeader code).status = some code := rfl

@[simp] theorem write_body (w : ResponseWriter β) (b : β) :
    (w.write b).body = w.body ++ [b] := rfl

@[simp] theorem write_status (w : ResponseWriter β) (b : β) :
    (w.write b).status = some (w.status.getD 200) := writeHeader_status w 200

end ResponseWriter

/-! ### Status codes and the envelope -/

/-- `http.StatusOK`. -/
def statusOK : ℕ := 200
/-- `http.StatusAccepted`. -/
def statusAccepted : ℕ := 202
/-- `http.StatusBadRequest`. -/
def statusBadRequest : ℕ := 400

/-- Modelled from the spec: `formatBooleanResponse` is not under src/; it encodes its four
arguments as one `BooleanResponse` and writes it to `w` (JSON marshaling is out of scope). -/
def formatBooleanResponse (success : Bool) (errorCode errorSubcode message : String)
    (w : ResponseWriter BooleanResponse) : ResponseWriter BooleanResponse :=
  w.write ⟨success, errorCode, errorSubcode, message⟩

/-! ### Requests -/

/-- What `json.NewDecoder(r.Body).Decode(&v)` makes of a request body. -/
inductive Body (α : Type) where
  /-- `r.Body == nil`. -/
  | nil
  /-- An empty body: `io.EOF`. -/
  | eof
  /-- Any other decoding error, with its text. -/
  | invalid (err : String)
  /-- The decoded value. -/
  | json (v : α)
deriving DecidableEq, Repr

/-- The signed-in user, as the JWT check returns it; the handlers read only the username. -/
structure User where
  username : String
deriving DecidableEq, Repr

/-- `unicode.IsSpace`: the Latin-1 spaces and the other characters with the White_Space
property. -/
def isSpace (c : Char) : Bool :=
  c == '\t' || c == '\n' || c == '\u000B' || c == '\u000C' || c == '\r' || c == ' ' ||
    c == '\u0085' || c == '\u00A0' || c == '\u1680' || ('\u2000' ≤ c && c ≤ '\u200A') ||
    c == '\u2028' || c == '\u2029' || c == '\u202F' || c == '\u205F' || c == '\u3000'

/-- `strings.TrimSpace`: drop leading and trailing spaces. -/
def trimSpace (s : String) : String :=
  ⟨((s.data.dropWhile isSpace).reverse.dropWhile isSpace).reverse⟩

example : trimSpace " acme\t" = "acme" := by decide

theorem head?_dropWhile_isSpace (l : List Char) :
    ∀ c ∈ (l.dropWhile isSpace).head?, isSpace c = false := by
  intro c hc
  have := List.head?_dropWhile_not isSpace l
  rwa [Option.mem_def.mp hc] at this

/-- `strings.TrimSpace` leaves no white space at either end: its first character is the first one
the leading `dropWhile` kept, its last the first one the trailing `dropWhile` kept. -/
theorem trimSpace_ends (s : String) :
    (∀ c ∈ (trimSpace s).data.head?, isSpace c = false) ∧
      ∀ c ∈ (trimSpace s).data.getLast?, isSpace c = false := by
  let m := s.data.dropWhile isSpace
  have hpre : (m.reverse.dropWhile isSpace).reverse <+: m := by
    simpa using List.reverse_prefix.mpr (List.dropWhile_suffix (l := m.reverse) isSpace)
  refine ⟨fun c hc => ?_, fun c hc => ?_⟩
  · obtain ⟨t, ht⟩ := hpre
    have hc' : (m.reverse.dropWhile isSpace).reverse.head? = some c := hc
    apply head?_dropWhile_isSpace s.data c
    show m.head? = some c
    rw [← ht, List.head?_append, hc']
    rfl
  · simpa using head?_dropWhile_isSpace m.reverse c (by simpa [trimSpace] using hc)

end IdentityVault
