namespace QueryJournal.Dns

/-!
The registered names of record types and classes.
-/

def typeNames : List (UInt16 × String) :=
  [(0, "ZERO"), (1, "A"), (2, "NS"), (5, "CNAME"), (6, "SOA"), (10, "NULL"), (12, "PTR"),
    (13, "HINFO"), (15, "MX"), (16, "TXT"), (24, "SIG"), (25, "KEY"), (28, "AAAA"), (33, "SRV"),
    (35, "NAPTR"), (37, "CERT"), (41, "OPT"), (43, "DS"), (44, "SSHFP"), (46, "RRSIG"),
    (47, "NSEC"), (48, "DNSKEY"), (50, "NSEC3"), (51, "NSEC3PARAM"), (52, "TLSA"), (59, "CDS"),
    (60, "CDNSKEY"), (61, "OPENPGPKEY"), (62, "CSYNC"), (64, "SVCB"), (65, "HTTPS"),
    (250, "TSIG"), (251, "IXFR"), (252, "AXFR"), (255, "ANY"), (257, "CAA"), (65305, "ANAME")]

def typeName (number : UInt16) : String :=
  (typeNames.lookup number).getD "Unknown"

def classNames : List (UInt16 × String) :=
  [(1, "IN"), (3, "CH"), (4, "HS"), (254, "NONE"), (255, "ANY")]

def className (number : UInt16) : String :=
  (classNames.lookup number).getD "UNKNOWN"

def internet : UInt16 :=
  1

end QueryJournal.Dns
