/- Object identifiers that certificates use, with the names they are known by. -/
namespace CertAudit.Identifiers

def emailAddress : String := "1.2.840.113549.1.9.1"

def rsaEncryption : String := "1.2.840.113549.1.1.1"
def ecPublicKey : String := "1.2.840.10045.2.1"
def ed25519 : String := "1.3.101.112"
def ed448 : String := "1.3.101.113"

def sha1WithRsa : String := "1.2.840.113549.1.1.5"
def sha1WithRsaOld : String := "1.3.14.3.2.29"
def sha256WithRsa : String := "1.2.840.113549.1.1.11"
def sha384WithRsa : String := "1.2.840.113549.1.1.12"
def sha512WithRsa : String := "1.2.840.113549.1.1.13"
def rsassaPss : String := "1.2.840.113549.1.1.10"
def ecdsaWithSha256 : String := "1.2.840.10045.4.3.2"
def ecdsaWithSha384 : String := "1.2.840.10045.4.3.3"
def ecdsaWithSha512 : String := "1.2.840.10045.4.3.4"

def curveP256 : String := "1.2.840.10045.3.1.7"
def curveP384 : String := "1.3.132.0.34"
def curveP521 : String := "1.3.132.0.35"

def digestSha1 : String := "1.3.14.3.2.26"
def digestSha256 : String := "2.16.840.1.101.3.4.2.1"
def digestSha384 : String := "2.16.840.1.101.3.4.2.2"
def digestSha512 : String := "2.16.840.1.101.3.4.2.3"

def subjectKeyIdentifier : String := "2.5.29.14"
def keyUsage : String := "2.5.29.15"
def subjectAltName : String := "2.5.29.17"
def issuerAltName : String := "2.5.29.18"
def basicConstraints : String := "2.5.29.19"
def reasonCode : String := "2.5.29.21"
def nameConstraints : String := "2.5.29.30"
def crlDistributionPoints : String := "2.5.29.31"
def certificatePolicies : String := "2.5.29.32"
def policyMappings : String := "2.5.29.33"
def authorityKeyIdentifier : String := "2.5.29.35"
def policyConstraints : String := "2.5.29.36"
def extendedKeyUsage : String := "2.5.29.37"
def freshestCrl : String := "2.5.29.46"
def inhibitAnyPolicy : String := "2.5.29.54"
def authorityInfoAccess : String := "1.3.6.1.5.5.7.1.1"
def subjectInfoAccess : String := "1.3.6.1.5.5.7.1.11"
def tlsFeature : String := "1.3.6.1.5.5.7.1.12"
def signedTimestamps : String := "1.3.6.1.4.1.11129.2.4.2"
def timestampPoison : String := "1.3.6.1.4.1.11129.2.4.3"
def netscapeCertType : String := "2.16.840.1.113730.1.1"
def netscapeComment : String := "2.16.840.1.113730.1.13"

/-- The policy that stands for every policy. -/
def anyPolicy : String := "2.5.29.32.0"

def accessOcsp : String := "1.3.6.1.5.5.7.48.1"
def accessCaIssuers : String := "1.3.6.1.5.5.7.48.2"
def ocspBasic : String := "1.3.6.1.5.5.7.48.1.1"

def usageAny : String := "2.5.29.37.0"
def usageServerAuth : String := "1.3.6.1.5.5.7.3.1"
def usageClientAuth : String := "1.3.6.1.5.5.7.3.2"
def usageCodeSigning : String := "1.3.6.1.5.5.7.3.3"
def usageEmailProtection : String := "1.3.6.1.5.5.7.3.4"
def usageTimeStamping : String := "1.3.6.1.5.5.7.3.8"
def usageOcspSigning : String := "1.3.6.1.5.5.7.3.9"

/-- Short names of the attributes of names. -/
def attributeNames : List (String × String) := [
  ("2.5.4.3", "CN"),
  ("2.5.4.4", "SN"),
  ("2.5.4.5", "serialNumber"),
  ("2.5.4.6", "C"),
  ("2.5.4.7", "L"),
  ("2.5.4.8", "ST"),
  ("2.5.4.9", "street"),
  ("2.5.4.10", "O"),
  ("2.5.4.11", "OU"),
  ("2.5.4.12", "title"),
  ("2.5.4.17", "postalCode"),
  ("2.5.4.42", "GN"),
  (emailAddress, "emailAddress"),
  ("0.9.2342.19200300.100.1.25", "DC")]

/-- Names of signature algorithms. -/
def signatureNames : List (String × String) := [
  (sha1WithRsa, "sha1WithRSAEncryption"),
  (sha256WithRsa, "sha256WithRSAEncryption"),
  (sha384WithRsa, "sha384WithRSAEncryption"),
  (sha512WithRsa, "sha512WithRSAEncryption"),
  (rsassaPss, "rsassaPss"),
  (ecdsaWithSha256, "ecdsa-with-SHA256"),
  (ecdsaWithSha384, "ecdsa-with-SHA384"),
  (ecdsaWithSha512, "ecdsa-with-SHA512"),
  (ed25519, "Ed25519"),
  (ed448, "Ed448")]

/-- Names of elliptic curves. -/
def curveNames : List (String × String) := [
  (curveP256, "P-256"),
  (curveP384, "P-384"),
  (curveP521, "P-521")]

/-- Names of extensions. -/
def extensionNames : List (String × String) := [
  (subjectKeyIdentifier, "Subject Key Identifier"),
  (keyUsage, "Key Usage"),
  (subjectAltName, "Subject Alternative Name"),
  (issuerAltName, "Issuer Alternative Name"),
  (basicConstraints, "Basic Constraints"),
  (nameConstraints, "Name Constraints"),
  (crlDistributionPoints, "CRL Distribution Points"),
  (certificatePolicies, "Certificate Policies"),
  (policyMappings, "Policy Mappings"),
  (authorityKeyIdentifier, "Authority Key Identifier"),
  (policyConstraints, "Policy Constraints"),
  (extendedKeyUsage, "Extended Key Usage"),
  (inhibitAnyPolicy, "Inhibit Any-Policy"),
  (authorityInfoAccess, "Authority Information Access"),
  (subjectInfoAccess, "Subject Information Access"),
  (netscapeCertType, "Netscape Cert Type"),
  (netscapeComment, "Netscape Comment")]

/-- Names of access methods. -/
def accessNames : List (String × String) := [
  (accessOcsp, "OCSP"),
  (accessCaIssuers, "CA Issuers")]

/-- The name of an identifier in a table, else the identifier itself. -/
def nameIn (table : List (String × String)) (oid : String) : String :=
  (table.lookup oid).getD oid

/-- The usages with a flag of their own. -/
def usageFlags : List (String × String) := [
  (usageServerAuth, "serverAuth"),
  (usageClientAuth, "clientAuth"),
  (usageCodeSigning, "codeSigning"),
  (usageEmailProtection, "emailProtection"),
  (usageTimeStamping, "timeStamping"),
  (usageOcspSigning, "ocspSigning"),
  (usageAny, "anyExtendedKeyUsage")]

/-- The usages in the order in which a list of usages begins. -/
def usageOrder : List String := [usageAny, usageServerAuth, usageClientAuth, usageCodeSigning,
  usageEmailProtection, usageTimeStamping, usageOcspSigning]

/-- Extensions that are understood when they are critical. -/
def understoodExtensions : List String := [
  subjectKeyIdentifier, keyUsage, subjectAltName, issuerAltName, basicConstraints,
  nameConstraints, crlDistributionPoints, certificatePolicies, policyMappings,
  authorityKeyIdentifier, policyConstraints, extendedKeyUsage, freshestCrl, inhibitAnyPolicy,
  authorityInfoAccess, subjectInfoAccess, tlsFeature, signedTimestamps, timestampPoison,
  netscapeCertType]

end CertAudit.Identifiers
