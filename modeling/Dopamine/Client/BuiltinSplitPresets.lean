import Dopamine.Client.QJsonObject

/-!
# The presets of split tunneling

`client/core/builtinSplitPresets.cpp`: the presets that the client brings along, and how those of
the API are merged with them. A preset of both gets the domains of both.
-/

namespace Dopamine.Client.BuiltinSplitPresets

open QJsonObject

def kRuDirectSubnets : List String :=
  ["195.178.108.0/23", "91.215.36.0/22", "195.209.150.0/24", "31.13.32.0/19", "37.230.240.0/24",
    "62.117.64.0/18", "77.108.64.0/18", "82.138.0.0/18", "87.245.128.0/18", "94.79.0.0/18",
    "178.208.128.0/19", "185.173.0.0/22", "193.232.106.0/24", "212.11.128.0/19", "212.45.0.0/19",
    "212.100.128.0/19", "213.79.64.0/18", "213.171.32.0/19", "82.202.188.0/22", "81.176.0.0/16",
    "81.177.0.0/16", "95.172.157.0/24", "195.161.0.0/16", "213.24.0.0/16", "213.59.0.0/17",
    "213.59.176.0/21", "213.241.192.0/18", "217.106.0.0/16", "217.107.0.0/18", "217.107.200.0/21",
    "217.107.208.0/20", "2.60.0.0/14", "5.136.0.0/13", "31.23.0.0/16", "31.28.192.0/19",
    "31.162.0.0/15", "31.172.192.0/18", "31.180.0.0/15", "31.192.160.0/19", "31.204.96.0/20",
    "37.1.64.0/20", "37.19.32.0/20", "37.19.48.0/21", "37.20.0.0/14", "37.76.128.0/18",
    "37.78.0.0/15", "45.80.64.0/22", "46.41.64.0/18", "46.45.192.0/18", "46.48.128.0/17",
    "46.52.224.0/20", "46.61.0.0/16", "46.63.128.0/17", "46.150.224.0/20", "46.158.0.0/15",
    "46.235.160.0/21", "46.235.216.0/21", "46.237.0.0/18", "62.105.0.0/19", "62.148.157.0/24",
    "62.148.224.0/19", "62.165.0.0/19", "62.183.16.0/22", "62.183.102.0/24", "62.183.112.0/20",
    "62.213.0.0/19", "77.34.0.0/16", "77.35.0.0/16", "77.39.0.0/17", "77.40.0.0/17",
    "77.45.128.0/17", "77.51.0.0/16", "77.72.240.0/21", "77.73.136.0/21", "77.82.0.0/16",
    "77.87.64.0/21", "77.106.0.0/18", "77.234.0.0/19", "78.29.64.0/18", "78.36.0.0/15",
    "78.40.184.0/21", "78.81.0.0/16", "78.85.0.0/16", "78.132.128.0/17", "79.126.0.0/17",
    "79.133.64.0/19", "79.133.128.0/19", "80.68.0.0/20", "80.71.208.0/20", "80.72.214.0/24",
    "80.88.48.0/20", "80.95.32.0/20", "80.234.0.0/17", "80.244.34.0/23", "80.244.36.0/23",
    "84.42.0.0/17", "87.226.128.0/17", "109.108.32.0/19", "109.126.192.0/18", "109.127.128.0/18",
    "109.161.0.0/17", "109.165.0.0/17", "109.168.0.0/16", "109.169.128.0/17", "109.172.0.0/17",
    "109.184.0.0/16", "109.198.192.0/18", "109.203.192.0/19", "109.225.0.0/18", "109.236.235.0/24",
    "109.236.236.0/23", "134.90.208.0/21", "176.48.0.0/14", "176.208.0.0/14", "178.34.0.0/16",
    "178.35.0.0/16", "178.44.0.0/14", "178.64.0.0/13", "178.75.64.0/18", "178.130.0.0/18",
    "178.166.128.0/17", "178.184.0.0/14", "178.217.56.0/21", "178.234.0.0/16", "178.255.234.0/23",
    "185.17.201.0/24", "185.17.203.0/24", "185.27.148.0/22", "185.106.104.0/23",
    "185.134.120.0/24", "185.140.148.0/22", "185.200.168.0/23", "185.205.128.0/22",
    "185.226.128.0/22", "188.16.0.0/14", "188.113.0.0/18", "188.114.0.0/18", "188.128.0.0/17",
    "188.133.192.0/18", "193.47.87.0/24", "193.228.108.0/22", "194.0.112.0/22", "195.19.0.0/17",
    "212.164.0.0/16", "195.82.140.0/24", "185.73.192.0/20"]

def kRuVpnSubnets : List String :=
  ["1.1.1.0/24", "1.0.0.0/24", "31.13.0.0/16", "157.240.0.0/16", "108.174.0.0/16", "69.63.0.0/16",
    "66.220.144.0/20", "179.60.192.0/22", "103.4.96.0/22", "45.64.40.0/22", "204.15.20.0/22",
    "74.119.76.0/22", "185.60.216.0/22", "185.89.216.0/22", "102.132.96.0/20", "147.75.208.0/20",
    "69.171.224.0/19", "173.252.64.0/18", "91.225.248.0/24", "185.63.144.0/24", "108.174.0.0/16",
    "13.104.0.0/14", "179.43.149.0/24", "217.195.153.0/24", "91.211.91.0/24", "151.101.0.0/16",
    "91.227.34.0/24", "151.115.45.0/24", "163.172.74.0/24", "88.212.244.0/24", "151.115.46.0/23",
    "151.115.57.0/24", "88.212.240.0/24", "185.137.235.0/24", "185.71.67.0/24", "212.58.249.0/24",
    "185.70.40.0/21", "18.195.178.0/24", "54.93.56.0/24", "35.159.24.0/24", "3.127.229.0/24",
    "51.15.103.0/24", "5.61.58.0/24", "37.1.207.0/24", "81.17.19.0/24", "82.202.255.0/24",
    "185.124.11.0/24", "74.125.196.0/24", "145.14.151.0/24", "178.248.236.0/24", "62.115.252.0/24",
    "80.239.137.0/24", "148.251.28.0/24", "152.199.21.0/24", "3.127.12.0/24", "3.122.61.0/24",
    "81.92.228.0/24", "185.12.144.0/24", "51.75.145.0/24", "95.217.91.0/24", "145.239.2.0/24",
    "54.38.195.0/24", "95.217.118.0/24", "95.141.32.0/24", "51.77.52.0/24", "5.188.73.0/24",
    "147.135.138.0/24", "195.137.240.0/24", "23.193.18.0/24", "185.215.4.0/24", "194.55.30.0/24",
    "194.55.26.0/24", "212.58.237.0/24", "212.58.233.0/24", "192.229.220.0/24", "68.232.34.0/24",
    "192.229.233.0/24", "184.51.232.0/24", "184.29.192.0/24", "62.115.252.0/24", "5.61.49.0/24",
    "144.2.8.0/21", "80.239.137.0/24", "151.139.128.0/24", "216.92.111.0/24", "3.224.128.0/24",
    "79.98.25.0/24", "91.234.200.0/24", "142.251.36.0/24", "142.250.179.0/24",
    "172.217.168.202/32", "216.58.214.10/32", "216.58.208.106/32", "142.251.39.106/32",
    "2.18.12.0/24", "23.32.0.0/11", "104.64.0.0/10", "104.16.0.0/12", "95.100.64.0/20",
    "96.16.0.0/15", "172.64.0.0/13", "23.0.0.0/12", "184.84.0.0/14", "44.192.0.0/10",
    "84.53.184.0/21", "184.50.0.0/15", "2.21.192.0/20", "15.236.0.0/14", "23.64.0.0/14",
    "184.24.0.0/13", "2.19.176.0/20", "92.123.248.0/22", "188.114.96.0/22", "65.8.0.0/14",
    "52.84.0.0/14", "52.88.0.0/14", "52.92.0.0/14", "108.156.0.0/14", "13.24.0.0/13",
    "13.32.0.0/12", "13.48.0.0/13", "13.56.0.0/14", "18.64.0.0/14", "52.222.0.0/16",
    "34.192.0.0/10", "107.20.0.0/14", "143.204.0.0/16", "52.216.0.0/14", "52.208.0.0/13",
    "52.223.0.0/17", "52.222.0.0/16", "52.192.0.0/12", "52.220.0.0/15", "52.223.128.0/18",
    "50.16.0.0/14", "54.208.0.0/15", "34.88.241.156/32", "179.43.150.0/24", "103.252.112.0/22",
    "104.244.40.0/21", "185.45.5.0/24", "185.45.6.0/23", "188.64.224.0/21", "192.133.76.0/22",
    "192.44.69.0/24", "199.16.156.0/22", "199.59.148.0/22", "199.96.56.0/21", "202.160.128.0/22",
    "209.237.192.0/19", "69.195.160.0/19", "64.63.0.0/18", "93.184.220.0/22", "195.201.200.0/22",
    "129.134.0.0/16", "87.245.208.0/20"]

/-- The domains of `ruServicesDomains.inc`. -/
def ruDirectExtraDomains : List String :=
  ["m.ozon.ru", "o3.ru", "ozon.ru", "ozonusercontent.com", "ozone.ru", "www.ozon.ru",
    "www.ozone.ru", "xapi.ozon.ru", "cdn1.ozonusercontent.com", "ir.ozone.ru", "m.wildberries.ru",
    "wb.ru", "wbbasket.ru", "wbcontent.net", "wbstatic.net", "wildberries.ru",
    "www.wildberries.ru", "auto.ru", "avito.ru", "avito.st", "cian.ru", "drom.ru", "m.auto.ru",
    "m.avito.ru", "m.cian.ru", "m.drom.ru", "www.auto.ru", "www.avito.ru", "www.cian.ru",
    "www.drom.ru", "avatars.mds.yandex.net", "disk.yandex.ru", "kinopoisk.ru", "mail.yandex.ru",
    "maps.yandex.ru", "maps.yastatic.net", "market.yandex.ru", "mc.yandex.ru", "music.yandex.ru",
    "passport.yandex.ru", "taxi.yandex.ru", "www.kinopoisk.ru", "www.ya.ru", "www.yandex.ru",
    "www.yastatic.net", "ya.ru", "yandex.net", "yandex.ru", "yastatic.net", "m.yandex.ru",
    "kuper.ru", "m.kuper.ru", "m.megamarket.ru", "m.samokat.ru", "megamarket.ru", "samokat.ru",
    "www.kuper.ru", "www.megamarket.ru", "www.samokat.ru", "esia.gosuslugi.ru", "gosuslugi.ru",
    "gu-st.ru", "mos.ru", "nalog.gov.ru", "nalog.ru", "www.gosuslugi.ru", "www.mos.ru",
    "ostrovok.ru", "pass.rzd.ru", "rzd.ru", "tutu.ru", "www.ostrovok.ru", "www.rzd.ru",
    "www.tutu.ru"]

/-- The domains of `ruBankingDomains.inc`. -/
def ruBankingDomains : List String :=
  ["m.sberbank.ru", "sber.ru", "sberbank.com", "sberbank.ru", "sbrf.ru", "www.sberbank.ru",
    "cdn-tinkoff.ru", "m.tbank.ru", "m.tinkoff.ru", "my-tbank.ru", "rosbank.ru", "t-bank-app.ru",
    "tbank.ru", "tcsbank.ru", "tinkoff.ru", "www.tbank.ru", "www.tinkoff.ru", "alfa.me",
    "alfabank.ru", "alfabank.st", "gazprombank.ru", "gpb.ru", "m.alfabank.ru", "m.gazprombank.ru",
    "m.psb.ru", "m.vtb.ru", "psb.ru", "psbank.ru", "vtb.ru", "www.alfabank.ru",
    "www.gazprombank.ru", "www.psb.ru", "www.vtb.ru", "acs.raiffeisen.ru", "acsx.raiffeisen.ru",
    "amobile.raiffeisen.ru", "api.raiffeisen.ru", "cdn-rf.raiffeisen.ru",
    "creq-brw-prod.raiffeisen.ru", "debitcards.raiffeisen.ru",
    "digital-onboarding.rbo.raiffeisen.ru", "ebs.raiffeisen.ru", "gql.rbo.raiffeisen.ru",
    "id.raiffeisen.ru", "imobile.raiffeisen.ru", "mau.raiffeisen.ru", "m.raiffeisen.ru",
    "oapi.raiffeisen.ru", "oidc.raiffeisen.ru", "online.raiffeisen.ru", "payments.raiffeisen.ru",
    "r-chat.raiffeisen.ru", "raiffeisen.ru", "rbo.raiffeisen.ru", "secure.raiffeisen.ru",
    "sessions.raiffeisen.ru", "www.raiffeisen.ru", "akbars.ru", "bspb.ru", "domrfbank.ru",
    "homecredit.ru", "mkb.ru", "m.mtsbank.ru", "m.rshb.ru", "m.sovcombank.ru", "mtsbank.ru",
    "otpbank.ru", "pochtabank.ru", "rencredit.ru", "rshb.ru", "sovcombank.ru", "tochka.com",
    "uralsib.ru", "www.mtsbank.ru", "www.rshb.ru", "www.sovcombank.ru"]

/-- The domains of `aiServicesDomains.inc`. -/
def aiDomains : List String :=
  ["chatgpt.com", "openai.com", "oaistatic.com", "oaiusercontent.com", "chat.com", "claude.ai",
    "anthropic.com", "gemini.google.com", "bard.google.com", "aistudio.google.com",
    "generativelanguage.googleapis.com", "notebooklm.google.com", "perplexity.ai", "deepseek.com",
    "x.ai", "grok.com"]

/-- The domains of `youtubeDomains.inc`. -/
def youtubeDomains : List String :=
  ["youtube.com", "googlevideo.com", "i.ytimg.com", "img.youtube.com", "youtube-nocookie.com",
    "youtubei.googleapis.com", "youtube.googleapis.com"]

/-- The domains of `instagramDomains.inc`. -/
def instagramDomains : List String :=
  ["instagram.com", "static.cdninstagram.com", "scontent.cdninstagram.com", "ig.me"]

/-- The domains of `tiktokDomains.inc`. -/
def tiktokDomains : List String :=
  ["tiktok.com", "tiktokv.com", "sf16.tiktokcdn.com", "p16.tiktokcdn.com", "musical.ly"]

/-- The domains of `xDomains.inc`. -/
def xDomains : List String :=
  ["x.com", "twitter.com", "pbs.twimg.com", "abs.twimg.com", "video.twimg.com", "t.co"]

/-- The domains of `facebookDomains.inc`. -/
def facebookDomains : List String := ["facebook.com", "fb.com", "fbcdn.net", "fbsbx.com"]

/-- The domains of `whatsappDomains.inc`. -/
def whatsappDomains : List String := ["whatsapp.com", "whatsapp.net"]

/-- The domains of `telegramDomains.inc`. -/
def telegramDomains : List String :=
  ["telegram.org", "t.me", "telegra.ph", "telesco.pe", "cdn4.telegram.org"]

/-- The domains of `netflixDomains.inc`. -/
def netflixDomains : List String :=
  ["netflix.com", "nflxvideo.net", "dnm.nflximg.net", "art-s.nflximg.net", "nflxext.com"]

/-- The domains of `spotifyDomains.inc`. -/
def spotifyDomains : List String := ["spotify.com", "i.scdn.co", "audio-fa.scdn.co"]

/-- The domains of `discordDomains.inc`. -/
def discordDomains : List String :=
  ["discord.com", "discord.gg", "discordapp.com", "discordcdn.com"]

def makePreset (id name : String) (domains : List String) (description : String) : QJsonObject :=
  let preset := (QJsonObject.empty.insertText "id" id).insertText "name" name
  (if description = "" then preset else preset.insertText "description" description).insert
    "domains" (some (.array (domains.map .string)))

def presets : List QJsonObject :=
  [makePreset "builtin-ru-direct" "RU services" (kRuDirectSubnets ++ ruDirectExtraDomains) "",
    makePreset "builtin-ru-banking" "Online Banking" ruBankingDomains "",
    makePreset "builtin-ru-vpn" "Blocked in RU" kRuVpnSubnets "",
    makePreset "builtin-ai" "AI" aiDomains "ChatGPT, Claude, Gemini, Perplexity, DeepSeek, Grok",
    makePreset "youtube" "YouTube" youtubeDomains "",
    makePreset "instagram" "Instagram" instagramDomains "",
    makePreset "tiktok" "TikTok" tiktokDomains "",
    makePreset "x" "X" xDomains "",
    makePreset "facebook" "Facebook" facebookDomains "",
    makePreset "whatsapp" "WhatsApp" whatsappDomains "",
    makePreset "telegram" "Telegram" telegramDomains "",
    makePreset "netflix" "Netflix" netflixDomains "",
    makePreset "spotify" "Spotify" spotifyDomains "",
    makePreset "discord" "Discord" discordDomains ""]

def domainsFromJson (domains : List Json) : List String :=
  (domains.map fun value => Json.text (some value)).filter (· ≠ "")

def unionDomains (base extra : List String) : List String :=
  extra.foldl (fun out entry => if entry = "" ∨ entry ∈ out then out else out ++ [entry]) base

/-- `indexById`: the place of the last preset with the id. -/
def indexById (merged : List Json) (id : String) : Option ℕ :=
  merged.zipIdx.foldl
    (fun found e => if (Json.toObject (some e.1)).textAt "id" = id then some e.2 else found) none

/-- A preset of the API, with what the one of the client adds to it. -/
def withBuiltin (builtin api : QJsonObject) : QJsonObject :=
  let unioned := unionDomains (domainsFromJson (builtin.arrayAt "domains"))
    (domainsFromJson (api.arrayAt "domains"))
  let api := api.insert "domains" (some (.array (unioned.map .string)))
  let api := if api.textAt "name" = "" then api.insert "name" (builtin.value "name") else api
  if api.textAt "description" = "" ∧ builtin.textAt "description" ≠ "" then
    api.insert "description" (builtin.value "description")
  else api

/-- A preset of the client in `mergeWithApi`: it is appended to those that the API does not have, or
merged with the one that it has. -/
def mergeBuiltin (index : String → Option ℕ) (builtinsOnly merged : List Json)
    (builtin : QJsonObject) : List Json × List Json :=
  if builtin.textAt "id" = "" then (builtinsOnly, merged)
  else
    match index (builtin.textAt "id") with
    | none => (builtinsOnly ++ [builtin.toValue], merged)
    | some i =>
        (builtinsOnly,
          merged.modify i fun api => (withBuiltin builtin (Json.toObject (some api))).toValue)

def mergeWithApi (apiPresets : List Json) : List Json :=
  let merged := presets.foldl (fun m builtin => mergeBuiltin (indexById apiPresets) m.1 m.2 builtin)
    ([], apiPresets)
  merged.1 ++ merged.2

end Dopamine.Client.BuiltinSplitPresets
