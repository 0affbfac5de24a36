import SignerTrust.Text.Utf8
import SignerTrust.TrustAnchor.Basic

/-!
# The accredited authorities

The certificates of the authorities that are trusted unless others are given.  Both issuing
authorities of Security Data are certified by the same root.
-/

namespace SignerTrust.Accredited

/-- The bytes of a text from its lines, each ended by a line break. -/
def ofLines (lines : List String) : Bytes :=
  lines.flatMap fun l => Utf8.encode l ++ [0x0a]

/-- The root of the central bank. -/
def bancoCentralRoot : Bytes := ofLines [
  "-----BEGIN CERTIFICATE-----",
  "MIIEHzCCAwegAwIBAgIUD2S5X2ZJfpaGDofOniNBegAFzxQwDQYJKoZIhvcNAQEL",
  "BQAwgZYxCzAJBgNVBAYTAkVDMSIwIAYDVQQKDBlCQU5DTyBDRU5UUkFMIERFTCBF",
  "Q1VBRE9SMTcwNQYDVQQLDC5FTlRJREFEIERFIENFUlRJRklDQUNJT04gREUgSU5G",
  "T1JNQUNJT04tRUNJQkNFMSowKAYDVQQDDCFBQyBSQUlaIEJBTkNPIENFTlRSQUwg",
  "REVMIEVDVUFET1IwHhcNMjYxMDE4MTI1NzI3WhcNNDYxMDEzMTI1NzI3WjCBljEL",
  "MAkGA1UEBhMCRUMxIjAgBgNVBAoMGUJBTkNPIENFTlRSQUwgREVMIEVDVUFET1Ix",
  "NzA1BgNVBAsMLkVOVElEQUQgREUgQ0VSVElGSUNBQ0lPTiBERSBJTkZPUk1BQ0lP",
  "Ti1FQ0lCQ0UxKjAoBgNVBAMMIUFDIFJBSVogQkFOQ08gQ0VOVFJBTCBERUwgRUNV",
  "QURPUjCCASIwDQYJKoZIhvcNAQEBBQADggEPADCCAQoCggEBAKD5bWKaLMg0nCJ0",
  "ONPIW3q+l3Nk8F/WCy2T18a4ggzmyEqeonMJ385a3oNfCRbze7ebs+5CaRhk8wd/",
  "jbhjGlrP4fbZKosNV4S5iUGU3ys2t4sNw/e60iotE+HdezrPv9hhlvCI61hCqenf",
  "2LOIXmWNe2K0Sav5hFJuehY16/iIq4PnbZRmhaZAj8crsmzdlBCNawtbMxqcJFSM",
  "e5wze2uGd+UwZsbivLu/H7LS12T1TeNtAqPFAEPFxzD/ONqz5nGs5EvmJ1hms5Ce",
  "YDZh1eil45Aj6eL1pv2KCTlOkdDX2AOCpCd3KmWAfTZACQhWObehaDirgFklbQzt",
  "8g7ZDO8CAwEAAaNjMGEwHQYDVR0OBBYEFAxkayAiJHxrNRBET4/0UAUbajiGMB8G",
  "A1UdIwQYMBaAFAxkayAiJHxrNRBET4/0UAUbajiGMA8GA1UdEwEB/wQFMAMBAf8w",
  "DgYDVR0PAQH/BAQDAgEGMA0GCSqGSIb3DQEBCwUAA4IBAQA/bvD7PM+4jfBkO5Sf",
  "hflKMaHT/6Qc6wmtPgDJ5KiVita+jRG4hTuBn0wZydhKDGCs7VUIrO3Y++pBfBKm",
  "kBgr+dSDOgwZSBEwBiwccIZPurUhpkUMke4+iP0FJphZlnQ93zU0+Hs1b0hCATfV",
  "Kt9VXH48PiMLGEpAMT2g2AYhVC4xJ6Y4n3mz7R4D7AO8epSnXzKaiFfHVj9ZrWri",
  "r85d+TmHMcw/1yx4nMmdJqTJ6rhrVcOJA+n4z+ct1Zd3or+M3rbBT+cauf53F8D9",
  "izwOi8Kdo1FLkiHyLmJv11qc5bdtp6wwFbjHjweMkdjF2luj+9yKS34NxMSdSWsz",
  "lo21",
  "-----END CERTIFICATE-----"]

/-- The issuing authority of the central bank. -/
def bancoCentralSub : Bytes := ofLines [
  "-----BEGIN CERTIFICATE-----",
  "MIIECzCCAvOgAwIBAgICCgEwDQYJKoZIhvcNAQELBQAwgZYxCzAJBgNVBAYTAkVD",
  "MSIwIAYDVQQKDBlCQU5DTyBDRU5UUkFMIERFTCBFQ1VBRE9SMTcwNQYDVQQLDC5F",
  "TlRJREFEIERFIENFUlRJRklDQUNJT04gREUgSU5GT1JNQUNJT04tRUNJQkNFMSow",
  "KAYDVQQDDCFBQyBSQUlaIEJBTkNPIENFTlRSQUwgREVMIEVDVUFET1IwHhcNMjYx",
  "MDE4MTI1NzI3WhcNNDExMDE0MTI1NzI3WjCBkTELMAkGA1UEBhMCRUMxIjAgBgNV",
  "BAoMGUJBTkNPIENFTlRSQUwgREVMIEVDVUFET1IxNzA1BgNVBAsMLkVOVElEQUQg",
  "REUgQ0VSVElGSUNBQ0lPTiBERSBJTkZPUk1BQ0lPTi1FQ0lCQ0UxJTAjBgNVBAMM",
  "HEFDIEJBTkNPIENFTlRSQUwgREVMIEVDVUFET1IwggEiMA0GCSqGSIb3DQEBAQUA",
  "A4IBDwAwggEKAoIBAQDSoXH9+ZkAWX9Vbi0/g4fOu6az4Lp/WaZPicZJx1tJFGzz",
  "0qSaFbsAclD2tH3jNqyyByG3+ULRIwg2SJ7C1LpRdniEUbQWaxpRFqLUW3PIKP2N",
  "rT3twHsJ0ZxT/pzUeXqk8Ns21EgyRaK3KBoWIs+DAdLECybphwsSQTmC5Za4zxaJ",
  "Ge6pk47nw4mujNonskRX5vYTHWMFmolWVEJ8r1a0dzxcASyZwRdoA0rQUh4mBxIb",
  "3TI2oMlTEW29ZA5mRioReBW5tARpHEYng97EQyEsaqthA/yUUEj38mT0tAzJGnFk",
  "U8O7WfUz2G6xGDarGTTTdjpqG3Xt216IM7GvnY75AgMBAAGjZjBkMBIGA1UdEwEB",
  "/wQIMAYBAf8CAQAwDgYDVR0PAQH/BAQDAgGGMB0GA1UdDgQWBBQtgT/wVx0AjTo5",
  "cQqSw1XtjPKiRzAfBgNVHSMEGDAWgBQMZGsgIiR8azUQRE+P9FAFG2o4hjANBgkq",
  "hkiG9w0BAQsFAAOCAQEASn4Monj5eFS1dmQIgyEpvL79ZpAeJ88wwZF0RxDePrE6",
  "4iliwvZKSmIqe14pqad7DIa2aGS8w34dTeedUKsv1p8NmoVHScMHwuUqzcitXXKR",
  "FDdqk9HsP9cNx3/MyzuDS2RfEo9M2VoWyJKX/MQBK+xsGZ+fG98kiQVSI6zSdl47",
  "vzgrvPwyJQvwjluY7kJ67nBhNLY6aXDhrnV3Sr/cq9Q2rzXVA/SaN0mdZ8DVCpih",
  "p8Q2M6AqpOI42Wc0JSLoDjQJbaPMzTVpwWHHL+GNP7ssfplSAPmykS77J1MHuqEq",
  "BBPuPb/+B3tioxP/JkczpoHAvszKn6DT4xhPknoH0A==",
  "-----END CERTIFICATE-----"]

/-- The root of the central bank's test hierarchy. -/
def bancoCentralTestRoot : Bytes := ofLines [
  "-----BEGIN CERTIFICATE-----",
  "MIIEKTCCAxGgAwIBAgIUNgS/rxYoq2y7NpAxo+R847eESi0wDQYJKoZIhvcNAQEL",
  "BQAwgZsxCzAJBgNVBAYTAkVDMSIwIAYDVQQKDBlCQU5DTyBDRU5UUkFMIERFTCBF",
  "Q1VBRE9SMTcwNQYDVQQLDC5FTlRJREFEIERFIENFUlRJRklDQUNJT04gREUgSU5G",
  "T1JNQUNJT04tRUNJQkNFMS8wLQYDVQQDDCZBQyBSQUlaIEJBTkNPIENFTlRSQUwg",
  "REVMIEVDVUFET1IgVEVTVDAeFw0yNjEwMTgxMjU3MjdaFw00NjEwMTMxMjU3Mjda",
  "MIGbMQswCQYDVQQGEwJFQzEiMCAGA1UECgwZQkFOQ08gQ0VOVFJBTCBERUwgRUNV",
  "QURPUjE3MDUGA1UECwwuRU5USURBRCBERSBDRVJUSUZJQ0FDSU9OIERFIElORk9S",
  "TUFDSU9OLUVDSUJDRTEvMC0GA1UEAwwmQUMgUkFJWiBCQU5DTyBDRU5UUkFMIERF",
  "TCBFQ1VBRE9SIFRFU1QwggEiMA0GCSqGSIb3DQEBAQUAA4IBDwAwggEKAoIBAQDG",
  "ySsZp29Hd5KwnUoZzwEMIE5jJq1F6G2fvsC3qBbhbe7Njb2D/l8wCzz0qBBESJ6H",
  "XxZ2CY8Js8RUl0blSNwdhFhe9qXQ9glBrGCndYWRRdxH2bpAd9hTdr1UGp7t/V0d",
  "93G01zydw+TA1YmXrsH2k8Bs6AdhxuvpSlYJQJzUDbjiLW61iwaPEVkaEWuy9CWG",
  "9wb8kax9/xVqV7IBvafrAnpWh96F8m3MF7jcjxSoq5x2ocFnkRGEC+oLoX38jl08",
  "U/xRNxTGtiyP+FJ1wC0PRqKeruRCnrbnL1o4UYSQo+dtrwfRuC/IAuLGHtMralHF",
  "WRRZ6ctSzFnIdrIIAdJHAgMBAAGjYzBhMB0GA1UdDgQWBBRYuacFAUBfpba3Usx5",
  "WcfYPUCCKDAfBgNVHSMEGDAWgBRYuacFAUBfpba3Usx5WcfYPUCCKDAPBgNVHRMB",
  "Af8EBTADAQH/MA4GA1UdDwEB/wQEAwIBBjANBgkqhkiG9w0BAQsFAAOCAQEAIKxj",
  "OljEuFSSE7woZh0+ZtnTVj0cfk2h/w0WUWR8MLgafQR8DOvA8UkwaJ8hvXh4J/vF",
  "zhZZn8EOmi6UdEEWGX/lxK78oogeSxPnz8FT+M7yaklXaDZ37hfBZUgk+b3mdEzr",
  "7kMbdCR/M5ibjDhcsKLN2ktN3uYe1I9OiBMS7Snyrv1ISAJ5INf/WesUyBcAjiKg",
  "SzTZcLpJ+eMKqa+FT4yj/KS/AgKTQ87X2I4svcUL1p1MfjX20TW0vN3a077qXzGz",
  "ZBfxxDoJONgPTcPY4QWyTDSwx4XpWSvcU40Aji1M687CvxZm49PuJQ4fuCGCsW8y",
  "5WBtC7BFr7C7vUWqfQ==",
  "-----END CERTIFICATE-----"]

/-- The issuing authority of the central bank's test hierarchy. -/
def bancoCentralTestSub : Bytes := ofLines [
  "-----BEGIN CERTIFICATE-----",
  "MIIEFTCCAv2gAwIBAgICCwEwDQYJKoZIhvcNAQELBQAwgZsxCzAJBgNVBAYTAkVD",
  "MSIwIAYDVQQKDBlCQU5DTyBDRU5UUkFMIERFTCBFQ1VBRE9SMTcwNQYDVQQLDC5F",
  "TlRJREFEIERFIENFUlRJRklDQUNJT04gREUgSU5GT1JNQUNJT04tRUNJQkNFMS8w",
  "LQYDVQQDDCZBQyBSQUlaIEJBTkNPIENFTlRSQUwgREVMIEVDVUFET1IgVEVTVDAe",
  "Fw0yNjEwMTgxMjU3MjdaFw00MTEwMTQxMjU3MjdaMIGWMQswCQYDVQQGEwJFQzEi",
  "MCAGA1UECgwZQkFOQ08gQ0VOVFJBTCBERUwgRUNVQURPUjE3MDUGA1UECwwuRU5U",
  "SURBRCBERSBDRVJUSUZJQ0FDSU9OIERFIElORk9STUFDSU9OLUVDSUJDRTEqMCgG",
  "A1UEAwwhQUMgQkFOQ08gQ0VOVFJBTCBERUwgRUNVQURPUiBURVNUMIIBIjANBgkq",
  "hkiG9w0BAQEFAAOCAQ8AMIIBCgKCAQEAw/zp3I05SCl3i7X97xw/43cDOwXKdewE",
  "JfcTfKFFx61vvQ8b0QsRDlDrabgYy/g0yZm0j9rEWdftLDDEGL5pp6dcvHQPmWyO",
  "fkhMMD6M5LQQm1eVNKpd98Z1ebmG83eNTJ/OPGoQ1txrx1JnK+ZhN5w2ZtLUQt/r",
  "QZlJt6b9p5y1Nme/5y9fck2a3c5rYcI51xv/ytSX1WJpdSUu/eumAQ/0i0ft+0j3",
  "OSy3QNMMwvzQdIyAde57Zm66tr7XOzJ5hdscAhwZ4G2JNmen67saG3ZTeS26sGsr",
  "nyhoh7EKKsJwxkimZMjwOs+3cRgGIS5l/gASlcpMOb5uRyZmw8y1QQIDAQABo2Yw",
  "ZDASBgNVHRMBAf8ECDAGAQH/AgEAMA4GA1UdDwEB/wQEAwIBhjAdBgNVHQ4EFgQU",
  "0SVR0J6LrBxRhN/oe025RznFjTEwHwYDVR0jBBgwFoAUWLmnBQFAX6W2t1LMeVnH",
  "2D1AgigwDQYJKoZIhvcNAQELBQADggEBAFZ1GDjUXw74FkNw1buSEi+eULRlUwaO",
  "Yl3ushz6/cR7Cmbdi0E4kV/lm/mKW85v8299gApg8FtnhOyWytsbvtpKzkdWSNDY",
  "BRhvHOBp0kV/t0IRM4KxBmoQSjmktLSthGgj89+BjS4dcxU6+LnS095hzfq3QqOX",
  "cMjJn6FeOWktlL8DOLn/TNNauzqAPeuwNaYGmq/PhpViVg1LmmKaHU+KO7MjIp2Q",
  "wCm032Cp/juTpdGYGj/h1zLOF+QM2w6Ds6qZAKI277Ag09yMCcKu7H0D2AhEthZp",
  "7wG0x+7lbjxE/1T3gJSBL3iEgAL3TbYYO2aMxS3ytAwvccjXqfx8fe0=",
  "-----END CERTIFICATE-----"]

/-- The root of Security Data. -/
def securityDataRoot : Bytes := ofLines [
  "-----BEGIN CERTIFICATE-----",
  "MIIEGzCCAwOgAwIBAgIUBHLnCkjyKmVb1nYV6BG2pzaOIVUwDQYJKoZIhvcNAQEL",
  "BQAwgZQxCzAJBgNVBAYTAkVDMRswGQYDVQQKDBJTRUNVUklUWSBEQVRBIFMuQS4x",
  "MDAuBgNVBAsMJ0VOVElEQUQgREUgQ0VSVElGSUNBQ0lPTiBERSBJTkZPUk1BQ0lP",
  "TjE2MDQGA1UEAwwtQVVUT1JJREFEIERFIENFUlRJRklDQUNJT04gUkFJWiBTRUNV",
  "UklUWSBEQVRBMB4XDTI2MTAxODEyNTcyN1oXDTQ2MTAxMzEyNTcyN1owgZQxCzAJ",
  "BgNVBAYTAkVDMRswGQYDVQQKDBJTRUNVUklUWSBEQVRBIFMuQS4xMDAuBgNVBAsM",
  "J0VOVElEQUQgREUgQ0VSVElGSUNBQ0lPTiBERSBJTkZPUk1BQ0lPTjE2MDQGA1UE",
  "AwwtQVVUT1JJREFEIERFIENFUlRJRklDQUNJT04gUkFJWiBTRUNVUklUWSBEQVRB",
  "MIIBIjANBgkqhkiG9w0BAQEFAAOCAQ8AMIIBCgKCAQEAouzYDegM6YLN+9qV9wUd",
  "XKzSHuqBetlLnWJ1SAW7klue/PvbYC3IPJSedHGYIvNOHuTWh20C2Ky1xSjVlhpA",
  "5Jru8pd0y2RlK9pmiHlSxPeHQXKuBZpT1wNdGbLjBZpEFRJGNWTY8vpJBH0QYR1c",
  "fOGjnu6hE9ntQGxzy1PeaQwKTSqmWUKL0yxAfX5Z+OvoqUSFz5pLeEe4AZlpXPJ0",
  "JlQ7EMQX6ltONCS1DIoq6lEJd8vqYcOeLqsFl5SdcG8hJB8NVNjRSqkWSOcRCnWL",
  "ZEvUmgxBB76Wta3xveYRvnjExs3W6V7EQIGXQF7abUX391eEAborrwWmmfxx/lOt",
  "QwIDAQABo2MwYTAdBgNVHQ4EFgQUYp91/8gXrLTiuucKCgs2ywlkcSIwHwYDVR0j",
  "BBgwFoAUYp91/8gXrLTiuucKCgs2ywlkcSIwDwYDVR0TAQH/BAUwAwEB/zAOBgNV",
  "HQ8BAf8EBAMCAQYwDQYJKoZIhvcNAQELBQADggEBAGvzGAq/nxEjd9Kr4p5u+qVO",
  "q9l8Tr5ux1gsavWRnL0sRoxFVuH4+Jb6lYgeBZMmkY5+VY2YYzkeKTzzqow5u0oG",
  "2qpazpamVXtAYNloZROhMLjnWHBjX02oqau8//kg0S+XG5DqoXGYhymzDg9KnnT8",
  "LXs35jrhl7My9+clQeLDFquj+kWoZZ6r+y4Mm9nVIoz0iFZp3jumjP42zZ/Rq5bT",
  "4EAp/cL45Fis3tYiH75Hav8U5rdpvj9qJm+ZhiyG63esNzq6nPo1TwmgAf7NZn9F",
  "QTfggDiJAMOIkyO7qcH6mxLFYeYiIvhCN9gqkkdTuH3N5B52GU9n2R1xCDiLEv4=",
  "-----END CERTIFICATE-----"]

/-- The issuing authority of Security Data. -/
def securityDataSub : Bytes := ofLines [
  "-----BEGIN CERTIFICATE-----",
  "MIIEETCCAvmgAwIBAgICDAIwDQYJKoZIhvcNAQELBQAwgZQxCzAJBgNVBAYTAkVD",
  "MRswGQYDVQQKDBJTRUNVUklUWSBEQVRBIFMuQS4xMDAuBgNVBAsMJ0VOVElEQUQg",
  "REUgQ0VSVElGSUNBQ0lPTiBERSBJTkZPUk1BQ0lPTjE2MDQGA1UEAwwtQVVUT1JJ",
  "REFEIERFIENFUlRJRklDQUNJT04gUkFJWiBTRUNVUklUWSBEQVRBMB4XDTI2MTAx",
  "ODEyNTcyN1oXDTQxMTAxNDEyNTcyN1owgZkxCzAJBgNVBAYTAkVDMR0wGwYDVQQK",
  "DBRTRUNVUklUWSBEQVRBIFMuQS4gMjEwMC4GA1UECwwnRU5USURBRCBERSBDRVJU",
  "SUZJQ0FDSU9OIERFIElORk9STUFDSU9OMTkwNwYDVQQDDDBBVVRPUklEQUQgREUg",
  "Q0VSVElGSUNBQ0lPTiBTVUJDQS0yIFNFQ1VSSVRZIERBVEEwggEiMA0GCSqGSIb3",
  "DQEBAQUAA4IBDwAwggEKAoIBAQC5oLx7EzASoPff0yHs0/7VtlyyVamCCKQxa51i",
  "Ujxn0MPGjW//er966kVYL+fJsC5kiSTEvJbkzy4tTh3BIEF7IUOIdUQv63WnhjJ3",
  "jHiaR3IXVjx+R6OH6zdTBDnMQmD/dzaSkqghCKzplo8ug+yNNmDkl27WuZRR3HLC",
  "1bKrDjHmSv1urD5hiocr20si0Dp86jCexpDLRBi5RkUD42iIaG03GHlFW2ppiDqr",
  "AGrJb88gWq+Is9smPU8RYfkFlvYZ3H8SUVo44bpLkza0ykB880TDAAMsteqW8WNZ",
  "etvok4VFixyA+nVX8HyCVXPVfzpNIFfdMJvg0lQ15JmAicoDAgMBAAGjZjBkMBIG",
  "A1UdEwEB/wQIMAYBAf8CAQAwDgYDVR0PAQH/BAQDAgGGMB0GA1UdDgQWBBT5Vg9D",
  "Zf3QeBasxnG16W19k+UwYzAfBgNVHSMEGDAWgBRin3X/yBestOK65woKCzbLCWRx",
  "IjANBgkqhkiG9w0BAQsFAAOCAQEAfeBaytvpltxnwelKH90M3NUhjJNEBUrwmp4g",
  "8RQHwiwVOFP8NIEcnzz5J0YdrK7G4HEv4MtriOMeuItKitESk6zpiB71R8zPHSoF",
  "JCvH6KH5AKhqpE5nAtA6xqqXz2RkA3H9I0YnXcTlMbd0NVuRzxrSgZLm3fMh4K/C",
  "pwz1vPh694jd929u6FbtN9mTOYgrPJA/3Ci5CEM54u8y+7uQcZgcY2eazjjXs+Tx",
  "/f/Op+5kozkkXI268ifaVAkASk3yKqPGMX2sHQP0KJsFCo9fCp6nZhKtjnhxRpzm",
  "LgbyO4SSwLi735bj5rZG4E9yXjoyWjsSkQnffXBz1MQqVe7Peg==",
  "-----END CERTIFICATE-----"]

/-- The first issuing authority of Security Data. -/
def securityDataLegacySub : Bytes := ofLines [
  "-----BEGIN CERTIFICATE-----",
  "MIIEDzCCAvegAwIBAgICDAEwDQYJKoZIhvcNAQELBQAwgZQxCzAJBgNVBAYTAkVD",
  "MRswGQYDVQQKDBJTRUNVUklUWSBEQVRBIFMuQS4xMDAuBgNVBAsMJ0VOVElEQUQg",
  "REUgQ0VSVElGSUNBQ0lPTiBERSBJTkZPUk1BQ0lPTjE2MDQGA1UEAwwtQVVUT1JJ",
  "REFEIERFIENFUlRJRklDQUNJT04gUkFJWiBTRUNVUklUWSBEQVRBMB4XDTI2MTAx",
  "ODEyNTcyN1oXDTQxMTAxNDEyNTcyN1owgZcxCzAJBgNVBAYTAkVDMRswGQYDVQQK",
  "DBJTRUNVUklUWSBEQVRBIFMuQS4xMDAuBgNVBAsMJ0VOVElEQUQgREUgQ0VSVElG",
  "SUNBQ0lPTiBERSBJTkZPUk1BQ0lPTjE5MDcGA1UEAwwwQVVUT1JJREFEIERFIENF",
  "UlRJRklDQUNJT04gU1VCQ0EtMSBTRUNVUklUWSBEQVRBMIIBIjANBgkqhkiG9w0B",
  "AQEFAAOCAQ8AMIIBCgKCAQEAs70VQgrtYE7jOleBRZAxkHjhXPgVHXvCkOJpIcg/",
  "Vv7Q9rdXNIPMcwFq1mWGNP5pupfibhkf3LszHKNTd2i8PF33vwhSIjZTMj/lGIMt",
  "8TsuDe/YLBskrc5+LssNQ7MvFfdKsZXif6gm4AcgFZSdH8mlkp90kUqr/LeIR7eA",
  "AQWSJzkRh6QG6J7SU5iTlTfYNvFZk0sZxvqduMFXbKa2zghwmA4uis47Ysy1net5",
  "hkmgUj/MweKdDXFgHQPKKXNF8xT+6Lbr+k1tg/NabMNeH+Xa4RhfXnZqfvfaFHkX",
  "iDCtlxxWFm9pzXytOqFneaDFqpOUgODuIO5y51VIFjrIKwIDAQABo2YwZDASBgNV",
  "HRMBAf8ECDAGAQH/AgEAMA4GA1UdDwEB/wQEAwIBhjAdBgNVHQ4EFgQUaxmVWdBj",
  "8HPWSy53QGA2JUlUts0wHwYDVR0jBBgwFoAUYp91/8gXrLTiuucKCgs2ywlkcSIw",
  "DQYJKoZIhvcNAQELBQADggEBAANjLS+bV5bl+s6nSzlvJKR4XFxhjQC/pycJhSqB",
  "Q/OSZxz+aDo7GN07eOGgLRBV3uqwZEs+zrxdPO0+ByKqMV+iHXWtkeV20DmxIgB4",
  "v2L1JEcA6isRWfs8qz7yTPZfZNyTlbjVIxoDSS/44M2eIcFB4bImkCxWP7O8WtoZ",
  "/ugHuI69ZEcLOEFcH+jV6CcdgYf+psfepWtp5vmE+0q+KaQiVZG7o1AZam993U8t",
  "zdGiZtRca9ST5UjGfFGEq+xYZ6LvOCZEBxsebxgt8VWMN1kY3IcAMwx5c4i2Ks5V",
  "SNM0ykDkHHMBclgGT9lM0XWezw9ul+klQDppqBGPrxNOPsw=",
  "-----END CERTIFICATE-----"]

/-- The authorities with their places. -/
def entries : List (Ecosystem × AnchorRole × Bytes) := [
  (.bancoCentral, .root, bancoCentralRoot),
  (.bancoCentral, .sub, bancoCentralSub),
  (.bancoCentralTest, .root, bancoCentralTestRoot),
  (.bancoCentralTest, .sub, bancoCentralTestSub),
  (.securityData, .root, securityDataRoot),
  (.securityData, .sub, securityDataSub),
  (.securityDataLegacy, .root, securityDataRoot),
  (.securityDataLegacy, .sub, securityDataLegacySub)]

end SignerTrust.Accredited
