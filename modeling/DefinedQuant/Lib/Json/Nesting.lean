import DefinedQuant.Lib.Json.Read

/-!
# Reading JSON on a limited stack

`json.loads` takes a level of the interpreter's stack for every array and object that it opens, and
what it calls inside takes levels of its own: the two hooks, and the constructor of a
`JSONDecodeError`. Without a level left it raises a `RecursionError` in place of whatever it would
have done. `valueWithin` is the reader with the levels that are left; `follows_loads` says that it
otherwise does what the reader of `loads` does, and `loadsWithin_of_fits` that it reads every
document whose value is not nested too deeply.
-/

namespace Json

/-- What the reader calls besides itself. -/
inductive Callee where
  | objectPairsHook
  | parseConstant
  | decodeError
  deriving DecidableEq

/-- The stack of the interpreter: how many levels are left, and how many each call takes. -/
structure Stack where
  depth : ℕ
  calls : Callee → ℕ

/-- Why a computation stopped: a `ValueError`, or no level was left. -/
inductive Stopped where
  | value (error : ValueError)
  | recursion

/-- A call with `depth` levels left. -/
def callWithin {α : Type} (calls : Callee → ℕ) (callee : Callee) (depth : ℕ)
    (x : Except ValueError α) : Except Stopped α :=
  if depth < calls callee then .error .recursion else x.mapError .value

/-- Go one level deeper, if one is left. -/
def deeper {α : Type} (depth : ℕ) (next : ℕ → Except Stopped α) : Except Stopped α :=
  match depth with
  | 0 => .error .recursion
  | depth + 1 => next depth

/-- A constant that JSON does not have stands at the front of the text. -/
def isConstant (t : Text) : Bool :=
  [py "NaN", py "Infinity", py "-Infinity"].any (fun word => (strip word t).isSome)

mutual

/-- The value at the front of the text, read with `depth` levels left. -/
def valueWithin (calls : Callee → ℕ) : ℕ → ℕ → Text → Except Stopped (Value × Text)
  | 0, _, _ => .error (.value malformed)
  | _ + 1, _, [] => .error (.value malformed)
  | fuel + 1, depth, c :: rest =>
      if c = quote then
        match scanString (rest.length + 1) rest with
        | some (s, rest) => .ok (.str s, rest)
        | none => callWithin calls .decodeError depth (.error malformed)
      else if c = 0x5B then
        deeper depth (fun depth =>
          match strip [0x5D] (skipSpace rest) with
          | some rest => .ok (.list [], rest)
          | none => do
              let (xs, rest) ← itemsWithin calls fuel depth (skipSpace rest)
              return (.list xs, rest))
      else if c = 0x7B then
        deeper depth (fun depth =>
          match strip [0x7D] (skipSpace rest) with
          | some rest => callWithin calls .objectPairsHook depth (.ok (.obj [], rest))
          | none => do
              let (m, rest) ← membersWithin calls fuel depth (skipSpace rest)
              callWithin calls .objectPairsHook depth (do return (← uniqueKeys m, rest)))
      else if isConstant (c :: rest) then
        callWithin calls .parseConstant depth (parseScalar (c :: rest))
      else (parseScalar (c :: rest)).mapError .value

/-- The items of an array up to its closing bracket. -/
def itemsWithin (calls : Callee → ℕ) : ℕ → ℕ → Text → Except Stopped (List Value × Text)
  | 0, _, _ => .error (.value malformed)
  | fuel + 1, depth, t => do
      let (x, rest) ← valueWithin calls fuel depth t
      match skipSpace rest with
      | 0x2C :: rest => do
          let (xs, rest) ← itemsWithin calls fuel depth (skipSpace rest)
          return (x :: xs, rest)
      | 0x5D :: rest => return ([x], rest)
      | _ => callWithin calls .decodeError depth (.error malformed)

/-- The members of an object up to its closing brace. -/
def membersWithin (calls : Callee → ℕ) : ℕ → ℕ → Text → Except Stopped (Members × Text)
  | 0, _, _ => .error (.value malformed)
  | _ + 1, depth, [] => callWithin calls .decodeError depth (.error malformed)
  | fuel + 1, depth, c :: rest =>
      if c = quote then
        match scanString (rest.length + 1) rest with
        | none => callWithin calls .decodeError depth (.error malformed)
        | some (key, rest) =>
            match skipSpace rest with
            | 0x3A :: rest => do
                let (x, rest) ← valueWithin calls fuel depth (skipSpace rest)
                match skipSpace rest with
                | 0x2C :: rest => do
                    let (m, rest) ← membersWithin calls fuel depth (skipSpace rest)
                    return ((key, x) :: m, rest)
                | 0x7D :: rest => return ([(key, x)], rest)
                | _ => callWithin calls .decodeError depth (.error malformed)
            | _ => callWithin calls .decodeError depth (.error malformed)
      else callWithin calls .decodeError depth (.error malformed)

end

/-- `json.loads(text, object_pairs_hook=..., parse_constant=...)` on a limited stack -/
def loadsWithin (stack : Stack) (t : Text) : Except Stopped Value := do
  let (v, rest) ← valueWithin stack.calls (2 * t.length + 1) stack.depth (skipSpace t)
  if skipSpace rest = [] then return v else throw (.value malformed)

/-! ## Computations that stop for want of a level -/

section Follows

variable {α β : Type} {x : Except Stopped α} {y : Except ValueError α}

/-- A computation on a limited stack does what another one does, or stops for want of a level. -/
def Follows (x : Except Stopped α) (y : Except ValueError α) : Prop :=
  x = .error .recursion ∨ x = y.mapError .value

/-- A computation without a limit follows itself. -/
theorem follows_mapError (y : Except ValueError α) : Follows (y.mapError .value) y := .inr rfl

/-- Running out of depth follows everything. -/
theorem follows_recursion (y : Except ValueError α) : Follows (.error .recursion) y := .inl rfl

/-- A call within the depth follows the call. -/
theorem follows_callWithin (calls : Callee → ℕ) (callee : Callee) (depth : ℕ)
    (y : Except ValueError α) :
    Follows (callWithin calls callee depth y) y := by
  unfold callWithin
  split_ifs
  · exact follows_recursion y
  · exact follows_mapError y

/-- One level deeper still follows. -/
theorem follows_deeper {next : ℕ → Except Stopped α} (depth : ℕ)
    (h : ∀ depth, Follows (next depth) y) :
    Follows (deeper depth next) y := by
  cases depth with
  | zero => exact follows_recursion y
  | succ depth => exact h depth

/-- A sequence follows when its parts do. -/
theorem Follows.bind {f : α → Except Stopped β} {g : α → Except ValueError β} (h : Follows x y)
    (hRest : ∀ a, Follows (f a) (g a)) : Follows (x >>= f) (y >>= g) := by
  rcases h with rfl | rfl
  · exact follows_recursion _
  · cases y with
    | error e => exact follows_mapError (.error e)
    | ok a => exact hRest a

/-- What it returns, the other one returns. -/
theorem Follows.ok (h : Follows x y) {a : α} (hx : x = .ok a) : y = .ok a := by
  rcases h with h | h
  · rw [h] at hx
    cases hx
  · exact Except.mapError_eq_ok.1 (h.symm.trans hx)

end Follows

/-- On every text the three readers follow those on an unlimited stack, by induction on the fuel
that all of them share. -/
theorem follows_parse (calls : Callee → ℕ) (fuel : ℕ) :
    (∀ depth t, Follows (valueWithin calls fuel depth t) (parseValue fuel t)) ∧
      (∀ depth t, Follows (itemsWithin calls fuel depth t) (parseItems fuel t)) ∧
        ∀ depth t, Follows (membersWithin calls fuel depth t) (parseMembers fuel t) := by
  induction fuel with
  | zero => exact ⟨fun _ _ => .inr rfl, fun _ _ => .inr rfl, fun _ _ => .inr rfl⟩
  | succ fuel ih =>
      obtain ⟨ihValue, ihItems, ihMembers⟩ := ih
      refine ⟨fun depth t => ?_, fun depth t => ?_, fun depth t => ?_⟩
      · cases t with
        | nil => exact .inr rfl
        | cons c rest =>
            rw [valueWithin, parseValue]
            split_ifs with hQuote hArray hObject hConstant
            · cases scanString (rest.length + 1) rest with
              | none => exact follows_callWithin _ _ _ _
              | some read => exact .inr rfl
            · refine follows_deeper depth (fun depth => ?_)
              cases strip [0x5D] (skipSpace rest) with
              | some after => exact .inr rfl
              | none => exact (ihItems depth _).bind (fun _ => .inr rfl)
            · refine follows_deeper depth (fun depth => ?_)
              cases strip [0x7D] (skipSpace rest) with
              | some after => exact follows_callWithin _ _ _ (.ok _)
              | none => exact (ihMembers depth _).bind (fun _ => follows_callWithin _ _ _ _)
            · exact follows_callWithin _ _ _ _
            · exact follows_mapError _
      · rw [itemsWithin, parseItems]
        refine (ihValue depth t).bind (fun item => ?_)
        obtain ⟨x, rest⟩ := item
        -- Both readers look at what follows the item, and the split may already have settled it for both.
        dsimp only
        split
        · next after hComma =>
            simp -failIfUnchanged only [hComma]
            exact (ihItems depth _).bind (fun _ => .inr rfl)
        · next after hClose =>
            simp -failIfUnchanged only [hClose]
            exact .inr rfl
        · simp -failIfUnchanged only
          exact follows_callWithin _ _ _ _
      · cases t with
        | nil => exact follows_callWithin _ _ _ _
        | cons c rest =>
            rw [membersWithin, parseMembers]
            split_ifs with hQuote
            · cases scanString (rest.length + 1) rest with
              | none => exact follows_callWithin _ _ _ _
              | some read =>
                  obtain ⟨key, rest⟩ := read
                  dsimp only
                  split
                  · next after hColon =>
                      simp -failIfUnchanged only [hColon]
                      refine (ihValue depth _).bind (fun item => ?_)
                      obtain ⟨x, rest⟩ := item
                      dsimp only
                      split
                      · next after hComma =>
                          simp -failIfUnchanged only [hComma]
                          exact (ihMembers depth _).bind (fun _ => .inr rfl)
                      · next after hClose =>
                          simp -failIfUnchanged only [hClose]
                          exact .inr rfl
                      · simp -failIfUnchanged only
                        exact follows_callWithin _ _ _ _
                  · simp -failIfUnchanged only
                    exact follows_callWithin _ _ _ _
            · exact follows_callWithin _ _ _ _

/-- On a limited stack, `json.loads` does what it does without a limit, or raises a
`RecursionError`. -/
theorem follows_loads (stack : Stack) (t : Text) : Follows (loadsWithin stack t) (loads t) := by
  refine ((follows_parse stack.calls (2 * t.length + 1)).1 stack.depth (skipSpace t)).bind
    (fun read => ?_)
  obtain ⟨v, rest⟩ := read
  dsimp only
  split_ifs
  · exact .inr rfl
  · exact .inr rfl

/-! ## Values that are not nested too deeply -/

mutual

/-- Whether a value is read with `depth` levels left, where the hook for objects takes `hook` of
them. -/
def fits (hook : ℕ) : Value → ℕ → Bool
  | .seq _ xs, depth => decide (0 < depth) && fitsItems hook xs (depth - 1)
  | .obj m, depth => decide (hook < depth) && fitsMembers hook m (depth - 1)
  | _, _ => true

def fitsItems (hook : ℕ) : List Value → ℕ → Bool
  | [], _ => true
  | x :: xs, depth => fits hook x depth && fitsItems hook xs depth

def fitsMembers (hook : ℕ) : Members → ℕ → Bool
  | [], _ => true
  | (_, x) :: m, depth => fits hook x depth && fitsMembers hook m depth

end

/-- A list fits when its elements do. -/
theorem fitsItems_iff {hook depth : ℕ} {xs : List Value} :
    fitsItems hook xs depth = true ↔ ∀ x ∈ xs, fits hook x depth = true := by
  induction xs with
  | nil => simp [fitsItems]
  | cons x xs ih => simp [fitsItems, ih]

/-- An object fits when its values do. -/
theorem fitsMembers_iff {hook depth : ℕ} {m : Members} :
    fitsMembers hook m depth = true ↔ ∀ p ∈ m, fits hook p.2 depth = true := by
  induction m with
  | nil => simp [fitsMembers]
  | cons p m ih => simp [fitsMembers, ih]

/-- An array takes one level. -/
@[simp] theorem fits_seq {hook depth : ℕ} {kind : SeqKind} {xs : List Value} :
    fits hook (.seq kind xs) depth = true ↔ 0 < depth ∧ ∀ x ∈ xs, fits hook x (depth - 1) =
      true := by
  rw [fits, Bool.and_eq_true, decide_eq_true_iff, fitsItems_iff]

/-- An object takes one level, and the hook its own calls. -/
@[simp] theorem fits_obj {hook depth : ℕ} {m : Members} :
    fits hook (.obj m) depth = true ↔ hook < depth ∧ ∀ p ∈ m, fits hook p.2 (depth - 1) = true := by
  rw [fits, Bool.and_eq_true, decide_eq_true_iff, fitsMembers_iff]

/-- Ordering the members of a value does not nest it deeper. -/
theorem fits_normal {hook : ℕ} (style : Style) (v : Value) :
    ∀ {depth : ℕ}, fits hook v depth = true → fits hook (normal style v) depth = true := by
  induction v using Value.induct with
  | null | bool | str | int | float => exact fun h => h
  | seq kind xs ih =>
      intro depth h
      obtain ⟨hDepth, hItems⟩ := fits_seq.1 h
      rw [normal_seq]
      refine fits_seq.2 ⟨hDepth, fun y hy => ?_⟩
      obtain ⟨x, hx, rfl⟩ := List.mem_map.1 hy
      exact ih x hx (hItems x hx)
  | obj m ih =>
      intro depth h
      obtain ⟨hDepth, hMembers⟩ := fits_obj.1 h
      rw [normal_obj]
      refine fits_obj.2 ⟨hDepth, fun q hq => ?_⟩
      obtain ⟨p, hp, rfl⟩ := List.mem_map.1 hq
      exact ih p (mem_arrange.1 hp) (hMembers p (mem_arrange.1 hp))

theorem eq_append_of_strip {p t rest : Text} (h : strip p t = some rest) : t = p ++ rest := by
  induction p generalizing t with
  | nil =>
      cases h
      rfl
  | cons a p ih =>
      cases t with
      | nil => cases h
      | cons b t =>
          rw [strip] at h
          split_ifs at h with hSame
          rw [hSame, ih h]
          rfl

/-- The constants that JSON does not have are refused. -/
theorem parseScalar_of_isConstant {t : Text} (h : isConstant t = true) :
    ∃ e, parseScalar t = .error e := by
  simp only [isConstant, List.any_cons, List.any_nil, Bool.or_false, Bool.or_eq_true] at h
  rcases h with h | h | h <;>
    · obtain ⟨rest, hRest⟩ := Option.isSome_iff_exists.1 h
      rw [eq_append_of_strip hRest]
      exact ⟨_, rfl⟩

/-- With depth enough a call is the call. -/
theorem callWithin_of_le {α : Type} {calls : Callee → ℕ} {callee : Callee} {depth : ℕ}
    {x : Except ValueError α}
    (h : calls callee ≤ depth) : callWithin calls callee depth x = x.mapError .value :=
  if_neg (not_lt.2 h)

/-- What is read without a limit is read with enough levels left for its value, by induction on the
fuel. -/
theorem read_of_fits (calls : Callee → ℕ) (fuel : ℕ) :
    (∀ depth t v rest, parseValue fuel t = .ok (v, rest) → fits (calls .objectPairsHook) v depth =
      true →
        valueWithin calls fuel depth t = .ok (v, rest)) ∧
      (∀ depth t xs rest, parseItems fuel t = .ok (xs, rest) → fitsItems (calls .objectPairsHook) xs
        depth = true →
        itemsWithin calls fuel depth t = .ok (xs, rest)) ∧
      ∀ depth t m rest, parseMembers fuel t = .ok (m, rest) → fitsMembers (calls .objectPairsHook) m
        depth = true →
        membersWithin calls fuel depth t = .ok (m, rest) := by
  -- The three readers call each other, so that the statement is about all of them and the
  -- induction is on the fuel they share.
  induction fuel with
  | zero => exact ⟨nofun, nofun, nofun⟩
  | succ fuel ih =>
      obtain ⟨ihValue, ihItems, ihMembers⟩ := ih
      refine ⟨fun depth t v after h hFits => ?_, fun depth t xs after h hFits => ?_,
        fun depth t m after h hFits => ?_⟩
      · cases t with
        | nil => cases h
        | cons c rest =>
            rw [parseValue] at h
            rw [valueWithin]
            split_ifs at h ⊢ with hQuote hArray hObject hConstant
            · cases hScan : scanString (rest.length + 1) rest with
              | none =>
                  rw [hScan] at h
                  cases h
              | some read =>
                  rw [hScan] at h
                  cases h
                  rfl
            -- An array takes one level of depth, and its elements what is left.
            · cases hStrip : strip [0x5D] (skipSpace rest) with
              | some behind =>
                  rw [hStrip] at h
                  cases h
                  obtain ⟨depth, rfl⟩ := Nat.exists_eq_add_one_of_ne_zero (fits_seq.1 hFits).1.ne'
                  rfl
              | none =>
                  rw [hStrip] at h
                  obtain ⟨⟨xs, behind⟩, hItems, hPair⟩ := Except.bind_eq_ok.1 h
                  cases hPair
                  obtain ⟨hDepth, hInside⟩ := fits_seq.1 hFits
                  obtain ⟨depth, rfl⟩ := Nat.exists_eq_add_one_of_ne_zero hDepth.ne'
                  exact Except.bind_eq_ok.2 ⟨_, ihItems depth _ _ _ hItems
                    (fitsItems_iff.2 hInside), rfl⟩
            -- An object takes a level too, and then the calls of the hook that looks for
            -- duplicate keys.
            · cases hStrip : strip [0x7D] (skipSpace rest) with
              | some behind =>
                  rw [hStrip] at h
                  cases h
                  have hDepth := (fits_obj.1 hFits).1
                  obtain ⟨depth, rfl⟩ := Nat.exists_eq_add_one_of_ne_zero (Nat.ne_zero_of_lt hDepth)
                  exact callWithin_of_le (Nat.lt_succ_iff.1 hDepth)
              | none =>
                  rw [hStrip] at h
                  obtain ⟨⟨m, behind⟩, hMembers, hRest⟩ := Except.bind_eq_ok.1 h
                  obtain ⟨value, hUnique, hPair⟩ := Except.bind_eq_ok.1 hRest
                  cases hPair
                  -- The hook gives back the members it got, or refuses them.
                  obtain rfl : v = .obj m := by
                    unfold uniqueKeys at hUnique
                    split_ifs at hUnique
                    exact (Except.ok.inj hUnique).symm
                  obtain ⟨hDepth, hInside⟩ := fits_obj.1 hFits
                  obtain ⟨depth, rfl⟩ := Nat.exists_eq_add_one_of_ne_zero (Nat.ne_zero_of_lt hDepth)
                  refine Except.bind_eq_ok.2 ⟨_, ihMembers depth _ _ _ hMembers
                    (fitsMembers_iff.2 hInside), ?_⟩
                  refine (callWithin_of_le (Nat.lt_succ_iff.1 hDepth)).trans
                    (Except.mapError_eq_ok.2 ?_)
                  exact Except.bind_eq_ok.2 ⟨_, hUnique, rfl⟩
            · obtain ⟨e, he⟩ := parseScalar_of_isConstant hConstant
              rw [he] at h
              cases h
            · exact Except.mapError_eq_ok.2 h
      -- An element is followed by a comma or by the closing bracket.
      · rw [parseItems] at h
        rw [itemsWithin]
        obtain ⟨⟨x, rest⟩, hValue, h⟩ := Except.bind_eq_ok.1 h
        dsimp only at h
        split at h
        · next behind hComma =>
            obtain ⟨⟨ys, last⟩, hItems, hPair⟩ := Except.bind_eq_ok.1 h
            cases hPair
            rw [fitsItems, Bool.and_eq_true] at hFits
            refine Except.bind_eq_ok.2 ⟨_, ihValue depth _ _ _ hValue hFits.1, ?_⟩
            simp -failIfUnchanged only [hComma]
            exact Except.bind_eq_ok.2 ⟨_, ihItems depth _ _ _ hItems hFits.2, rfl⟩
        · next behind hClose =>
            cases h
            rw [fitsItems, Bool.and_eq_true] at hFits
            refine Except.bind_eq_ok.2 ⟨_, ihValue depth _ _ _ hValue hFits.1, ?_⟩
            simp -failIfUnchanged only [hClose]
            rfl
        · cases h
      -- A member opens with its key, the colon and its value, and goes on as an element does.
      · cases t with
        | nil => cases h
        | cons c rest =>
            rw [parseMembers] at h
            rw [membersWithin]
            split_ifs at h ⊢ with hQuote
            cases hScan : scanString (rest.length + 1) rest with
            | none =>
                rw [hScan] at h
                cases h
            | some read =>
                obtain ⟨key, rest⟩ := read
                rw [hScan] at h
                dsimp only at h ⊢
                split at h
                · next value hColon =>
                    simp -failIfUnchanged only [hColon]
                    obtain ⟨⟨x, rest⟩, hValue, h⟩ := Except.bind_eq_ok.1 h
                    dsimp only at h
                    split at h
                    · next behind hComma =>
                        obtain ⟨⟨n, last⟩, hMembers, hPair⟩ := Except.bind_eq_ok.1 h
                        cases hPair
                        rw [fitsMembers, Bool.and_eq_true] at hFits
                        refine Except.bind_eq_ok.2 ⟨_, ihValue depth _ _ _ hValue hFits.1, ?_⟩
                        simp -failIfUnchanged only [hComma]
                        exact Except.bind_eq_ok.2 ⟨_, ihMembers depth _ _ _ hMembers hFits.2, rfl⟩
                    · next behind hClose =>
                        cases h
                        rw [fitsMembers, Bool.and_eq_true] at hFits
                        refine Except.bind_eq_ok.2 ⟨_, ihValue depth _ _ _ hValue hFits.1, ?_⟩
                        simp -failIfUnchanged only [hClose]
                        rfl
                    · cases h
                · cases h

/-- A document whose value is not nested too deeply is read on a limited stack. -/
theorem loadsWithin_of_fits {stack : Stack} {t : Text} {v : Value} (h : loads t = .ok v)
    (hFits : fits (stack.calls .objectPairsHook) v stack.depth = true) :
    loadsWithin stack t = .ok v := by
  obtain ⟨⟨v', rest⟩, hRead, hEnd⟩ := Except.bind_eq_ok.1 h
  dsimp only at hEnd
  split_ifs at hEnd with hSpace
  cases hEnd
  refine Except.bind_eq_ok.2 ⟨(v, rest), (read_of_fits stack.calls _).1 _ _ _ _ hRead hFits, ?_⟩
  exact if_pos hSpace

/-! ## Texts that open too many arrays -/

/-- Opening brackets alone take all levels that are left. -/
theorem valueWithin_brackets (calls : Callee → ℕ) {n fuel depth : ℕ} (hFuel : 2 * n ≤ fuel)
    (hDeep : depth < n) :
    valueWithin calls fuel depth (List.replicate n 0x5B) = .error .recursion := by
  induction depth generalizing n fuel with
  | zero =>
      obtain ⟨n, rfl⟩ := Nat.exists_eq_add_one_of_ne_zero (Nat.ne_zero_of_lt hDeep)
      obtain ⟨fuel, rfl⟩ := Nat.exists_eq_add_one_of_ne_zero (n := fuel) (by omega)
      rfl
  | succ depth ih =>
      obtain ⟨n, rfl⟩ : ∃ k, n = k + 2 := ⟨n - 2, by omega⟩
      obtain ⟨fuel, rfl⟩ : ∃ k, fuel = k + 2 := ⟨fuel - 2, by omega⟩
      have hSpace : skipSpace (List.replicate (n + 1) (0x5B : CodePoint)) = List.replicate (n + 1)
        0x5B := by
        rw [List.replicate_succ]
        exact skipSpace_cons rfl _
      have hStrip : strip [0x5D] (List.replicate (n + 1) (0x5B : CodePoint)) = none := by
        rw [List.replicate_succ]
        exact strip_cons_ne (by decide) _ _
      have hInside : itemsWithin calls (fuel + 1) depth (List.replicate (n + 1) 0x5B) =
        .error .recursion := by
        rw [itemsWithin, ih (by omega) (by omega)]
        rfl
      rw [List.replicate_succ, valueWithin, if_neg (by decide), if_pos rfl, hSpace]
      show (match strip [0x5D] (List.replicate (n + 1) 0x5B) with
        | some rest => Except.ok (Value.list [], rest)
        | none => do
            let (xs, rest) ← itemsWithin calls (fuel + 1) depth (List.replicate (n + 1) 0x5B)
            return (Value.list xs, rest)) = .error Stopped.recursion
      rw [hStrip, hInside]
      rfl

/-- A document of more opening brackets than there are levels left is not read. -/
theorem loadsWithin_brackets {stack : Stack} {n : ℕ} (h : stack.depth < n) :
    loadsWithin stack (List.replicate n 0x5B) = .error .recursion := by
  have hSpace : skipSpace (List.replicate n (0x5B : CodePoint)) = List.replicate n 0x5B := by
    obtain ⟨n, rfl⟩ := Nat.exists_eq_add_one_of_ne_zero (Nat.ne_zero_of_lt h)
    rw [List.replicate_succ]
    exact skipSpace_cons rfl _
  unfold loadsWithin
  rw [hSpace, valueWithin_brackets stack.calls (by rw [List.length_replicate]; omega) h]
  rfl

end Json
