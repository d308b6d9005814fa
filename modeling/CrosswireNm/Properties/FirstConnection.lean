import CrosswireNm.Properties.FortinetConnections

/-!
# All imported fields come from one connection

The accumulators are not cleared when a connection without a server is passed over. Besides, the
importer finds connections by their name alone, and takes no notice of CDATA sections.
-/

namespace CrosswireNm.Properties

open Library

/-- What the accumulators hold after the connections passed over before it. -/
def leave (kept : Fields) : List Fields → Fields
  | [] => kept
  | c :: cs => if c.usable then kept else leave (c.over kept) cs

section Shows

end Shows

def fortiClientFile (cs : List (List (String × String))) : Content String Char :=
  let leaves (fields : List (String × String)) : Content String Char :=
    fields.foldr (fun field rest => .element field.1 (.text field.2.toList .nil) rest) .nil
  let listed : Content String Char :=
    cs.foldr (fun fields rest => .element "connection" (leaves fields) rest) .nil
  .element "forticlient_configuration"
    (.element "vpn" (.element "sslvpn" (.element "connections" listed .nil) .nil) .nil) .nil

def completeFile : Content String Char :=
  fortiClientFile
    [[("name", "Draft"), ("server", " "), ("username", "bob"), ("sso_enabled", "1")],
      [("name", "Work"), ("description", ""), ("server", "vpn.example:10443"),
        ("username", "alice"), ("sso_enabled", "0")]]

end CrosswireNm.Properties
