import ProxySelection.Exchange.Basic

/-!
Connections of an exchange that is rerouted.

`Exchange.pool` holds all connections that an exchange has taken, each at the place of its
number. `Takes x x' via` says what it is for `x'` to be `x` on the way `via`: the connection is
the same one exactly if it was not open or went that way already, and otherwise a new one to
the same address takes its place and the old one stays as it was. Rerouting brings this about
(`reroute_takes`), so a connection that is open is never changed
(`Takes.open_untouched`).
-/

namespace ProxySelection

namespace Exchange

variable {x x' y : Exchange} {via : Option NextHop}

/-- All connections that there have been, each at the place of its number. -/
def pool (x : Exchange) : List Connection := x.former ++ [x.connection]

theorem pool_serial (x : Exchange) : x.pool[x.connection.serial]? = some x.connection := by
  rw [pool, x.serial_eq]
  simp

/-- `x'` is `x` on the way `via`. -/
structure Takes (x x' : Exchange) (via : Option NextHop) : Prop where
  via_eq : x'.connection.via = via
  address_eq : x'.connection.address = x.connection.address
  /-- The connection is the same one only if changing its way changes nothing that is open. -/
  same_iff : x'.connection.serial = x.connection.serial ↔
    x.connection.isOpen = false ∨ x.connection.via = via
  kept : x'.connection.serial = x.connection.serial →
    x'.connection = { x.connection with via } ∧ x'.former = x.former
  replaced : x'.connection.serial ≠ x.connection.serial →
    x'.connection.isOpen = false ∧ x'.former = x.former ++ [x.connection]

/-! ### Rerouting -/

/-- Rerouting takes a new connection exactly if the present one is open and goes another way. -/
theorem reroute_cases (x : Exchange) (via : Option NextHop) :
    (x.connection.isOpen = true ∧ x.connection.via ≠ via ∧
      (x.reroute via).2 = x.reconnect.setVia via) ∨
    ((x.connection.isOpen = false ∨ x.connection.via = via) ∧
      (x.reroute via).2 = x.setVia via) := by
  unfold reroute mustReconnect
  by_cases already : x.connection.via = via
  · exact .inr ⟨.inr already, by simp [already]⟩
  · cases isOpen : x.connection.isOpen with
    | false => exact .inr ⟨.inl rfl, by simp⟩
    | true => exact .inl ⟨rfl, already, by simp [already]⟩

theorem serial_reconnect_ne (x : Exchange) :
    x.reconnect.connection.serial ≠ x.connection.serial := by
  rw [x.serial_eq]
  exact Nat.succ_ne_self _

theorem reroute_takes (x : Exchange) (via : Option NextHop) : Takes x (x.reroute via).2 via := by
  rcases x.reroute_cases via with ⟨isOpen, other, rerouted⟩ | ⟨free, rerouted⟩
  · have renewed : (x.reconnect.setVia via).connection.serial ≠ x.connection.serial :=
      x.serial_reconnect_ne
    rw [rerouted]
    refine ⟨rfl, rfl, ⟨fun same => absurd same renewed, ?_⟩, fun same => absurd same renewed,
      fun _ => ⟨rfl, rfl⟩⟩
    rintro (closed | same)
    · rw [isOpen] at closed
      cases closed
    · exact absurd same other
  · rw [rerouted]
    exact ⟨rfl, rfl, ⟨fun _ => free, fun _ => rfl⟩, fun _ => ⟨rfl, rfl⟩,
      fun renewed => absurd rfl renewed⟩

/-- What happens to the request and its record does not matter for the way. -/
theorem Takes.congr (h : Takes x x' via) (connection : y.connection = x'.connection)
    (former : y.former = x'.former) : Takes x y via := by
  obtain ⟨via_eq, address_eq, same_iff, kept, replaced⟩ := h
  rw [← connection] at via_eq address_eq same_iff
  rw [← connection, ← former] at kept replaced
  exact ⟨via_eq, address_eq, same_iff, kept, replaced⟩

/-! ### What stays -/

theorem pool_eq_some_cases {i : Nat} {c : Connection} (there : x.pool[i]? = some c) :
    x.former[i]? = some c ∨ c = x.connection := by
  rw [pool, List.getElem?_append] at there
  split at there
  · exact .inl there
  · have mem : c ∈ [x.connection] := List.mem_of_getElem? there
    exact .inr (List.mem_singleton.mp mem)

theorem pool_of_former {i : Nat} {c : Connection} (there : x.former[i]? = some c) :
    x.pool[i]? = some c := by
  rw [pool, List.getElem?_append_left (List.getElem?_eq_some_iff.mp there).1]
  exact there

/-- A connection that is open stays as it is and where it is. -/
theorem Takes.open_untouched (h : Takes x x' via) {i : Nat} {c : Connection}
    (there : x.pool[i]? = some c) (isOpen : c.isOpen = true) : x'.pool[i]? = some c := by
  by_cases same : x'.connection.serial = x.connection.serial
  · obtain ⟨connection, former⟩ := h.kept same
    rcases h.same_iff.mp same with closed | already
    -- The present connection may change its way, but it is not the open one.
    · rcases pool_eq_some_cases there with earlier | rfl
      · exact pool_of_former (former ▸ earlier)
      · rw [closed] at isOpen
        cases isOpen
    · have unchanged : x'.connection = x.connection := by rw [connection, ← already]
      rw [pool, unchanged, former]
      exact there
  · obtain ⟨_, former⟩ := h.replaced same
    have extended : x'.pool = x.pool ++ [x'.connection] := by rw [pool, former, pool]
    rw [extended, List.getElem?_append_left (List.getElem?_eq_some_iff.mp there).1]
    exact there

end Exchange

end ProxySelection
